/-!
# Collections sorted by a key

A finite collection whose items carry distinct keys, kept as the list of its items in
increasing order of their keys. There is one list for each collection, so equality of
collections is equality of lists. A set is such a collection whose items are their own
keys; a store of records by identity and a map from keys to values are two more.

The view of a collection is its membership relation: `mem_insert`, `mem_erase` and
`find?_eq_some_iff` say what the operations do to it, and `ext_mem` says that nothing
else tells two collections apart.
-/

namespace Mediatheque

open Std

/-! ### Orders by a key -/

/-- Comparing by a key that tells values apart is a lawful comparison. -/
theorem lawfulEqCmp_compareOn {α β : Type} [Ord β] [LawfulEqOrd β] {key : α → β}
    (injective : ∀ {a b}, key a = key b → a = b) : LawfulEqCmp (compareOn key) where
  eq_of_compare h := injective (LawfulEqOrd.eq_of_compare h)

/-! ### The type -/

/-- A collection of items with distinct keys, in increasing order of the keys. -/
structure SortedBy {α κ : Type} [Ord κ] (key : α → κ) where
  /-- The items in order. -/
  toList : List α
  /-- The keys increase along the list. -/
  increasing : toList.Pairwise fun a b => compare (key a) (key b) = .lt

/-- A finite set: a sorted collection whose items are their own keys. -/
abbrev SortedSet (α : Type) [Ord α] := SortedBy (id : α → α)

namespace SortedBy

variable {α κ : Type} [Ord κ] {key : α → κ}

@[ext] theorem ext {s t : SortedBy key} (h : s.toList = t.toList) : s = t := by
  cases s; cases t; simp_all

instance [DecidableEq α] : DecidableEq (SortedBy key) := fun s t =>
  decidable_of_iff (s.toList = t.toList) ⟨ext, fun h => h ▸ rfl⟩

instance : Membership α (SortedBy key) := ⟨fun s a => a ∈ s.toList⟩

theorem mem_def {s : SortedBy key} {a : α} : a ∈ s ↔ a ∈ s.toList := Iff.rfl

/-- The collection without items. -/
def empty : SortedBy key := ⟨[], .nil⟩

instance : Inhabited (SortedBy key) := ⟨empty⟩

/-- Whether there are no items. -/
def isEmpty (s : SortedBy key) : Bool := s.toList.isEmpty

/-- The number of items. -/
def size (s : SortedBy key) : Nat := s.toList.length

/-- The item with the given key. -/
def find? (s : SortedBy key) (k : κ) : Option α :=
  s.toList.find? fun a => compare k (key a) == .eq

/-- Whether some item has the given key. -/
def contains (s : SortedBy key) (k : κ) : Bool := (s.find? k).isSome

/-- The items that satisfy a test. -/
def filter (s : SortedBy key) (test : α → Bool) : SortedBy key :=
  ⟨s.toList.filter test, s.increasing.sublist List.filter_sublist⟩

/-- The collection without the item of the given key. -/
def erase (s : SortedBy key) (k : κ) : SortedBy key :=
  s.filter fun a => compare k (key a) != .eq

/-- Puts an item into its place, instead of the item with the same key if there is one. -/
def insertInto (key : α → κ) (a : α) : List α → List α
  | [] => [a]
  | b :: rest =>
    match compare (key a) (key b) with
    | .lt => a :: b :: rest
    | .eq => a :: rest
    | .gt => b :: insertInto key a rest

section Insert

theorem mem_of_mem_insertInto {a c : α} {l : List α} (h : c ∈ insertInto key a l) :
    c = a ∨ c ∈ l := by
  induction l with
  | nil => simpa [insertInto] using h
  | cons b rest ih =>
    rw [insertInto] at h
    split at h <;> simp only [List.mem_cons] at h ⊢ <;> grind

variable [TransOrd κ]

theorem increasing_insertInto {a : α} {l : List α}
    (h : l.Pairwise fun a b => compare (key a) (key b) = .lt) :
    (insertInto key a l).Pairwise fun a b => compare (key a) (key b) = .lt := by
  induction l with
  | nil => simp [insertInto]
  | cons b rest ih =>
    obtain ⟨first, later⟩ := List.pairwise_cons.1 h
    rw [insertInto]
    split
    · next hlt =>
      refine List.pairwise_cons.2 ⟨fun c hc => ?_, h⟩
      rcases List.mem_cons.1 hc with rfl | hc
      · exact hlt
      · exact TransCmp.lt_trans hlt (first c hc)
    · next heq =>
      exact List.pairwise_cons.2 ⟨fun c hc => TransCmp.lt_of_eq_of_lt heq (first c hc), later⟩
    · next hgt =>
      refine List.pairwise_cons.2 ⟨fun c hc => ?_, ih later⟩
      rcases mem_of_mem_insertInto hc with rfl | hc
      · exact OrientedCmp.lt_of_gt hgt
      · exact first c hc

/-- The collection with the item `a`, which takes the place of an item with the same key. -/
def insert (s : SortedBy key) (a : α) : SortedBy key :=
  ⟨insertInto key a s.toList, increasing_insertInto s.increasing⟩

/-- The collection with all items of a list; of items with the same key the last one stays. -/
def insertAll (s : SortedBy key) (l : List α) : SortedBy key := l.foldl insert s

/-- The collection of the items of a list; of items with the same key the last one stays. -/
def ofList (l : List α) : SortedBy key := insertAll empty l

/-- An item whose key is greater than all others is inserted at the end. -/
theorem insertInto_of_forall_lt {a : α} {l : List α}
    (h : ∀ b ∈ l, compare (key b) (key a) = .lt) : insertInto key a l = l ++ [a] := by
  induction l with
  | nil => rfl
  | cons b rest ih =>
    obtain ⟨first, later⟩ := List.forall_mem_cons.1 h
    have after : compare (key a) (key b) = .gt := OrientedCmp.gt_of_lt first
    rw [insertInto, after, ih later, List.cons_append]

/-- Items that come in order are inserted one after another. -/
theorem toList_insertAll {s : SortedBy key} {l : List α}
    (h : (s.toList ++ l).Pairwise fun a b => compare (key a) (key b) = .lt) :
    (s.insertAll l).toList = s.toList ++ l := by
  induction l generalizing s with
  | nil => exact (List.append_nil _).symm
  | cons a l ih =>
    have before : ∀ b ∈ s.toList, compare (key b) (key a) = .lt := fun b hb =>
      (List.pairwise_append.1 h).2.2 b hb a List.mem_cons_self
    have grown : (s.insert a).toList = s.toList ++ [a] := insertInto_of_forall_lt before
    have step : s.insertAll (a :: l) = (s.insert a).insertAll l := rfl
    rw [step, ih, grown, List.append_assoc, List.singleton_append]
    rwa [grown, List.append_assoc, List.singleton_append]

/-- A collection is the collection of its items. -/
@[simp] theorem ofList_toList (s : SortedBy key) : ofList s.toList = s :=
  ext (toList_insertAll (s := empty) s.increasing)

end Insert

/-! ### Membership -/

@[simp] theorem not_mem_empty {a : α} : ¬a ∈ (empty : SortedBy key) := by
  simp [mem_def, empty]

@[simp] theorem mem_filter {s : SortedBy key} {test : α → Bool} {a : α} :
    a ∈ s.filter test ↔ a ∈ s ∧ test a := by
  simp [mem_def, filter]

@[simp] theorem mem_erase {s : SortedBy key} {k : κ} {a : α} :
    a ∈ s.erase k ↔ a ∈ s ∧ compare k (key a) ≠ .eq := by
  simp [erase]

theorem isEmpty_iff {s : SortedBy key} : s.isEmpty ↔ s = empty := by
  simp [isEmpty, empty, SortedBy.ext_iff]

variable [TransOrd κ]

/-- Two items with equal keys are the same item. -/
theorem eq_of_key {s : SortedBy key} {a b : α} (ha : a ∈ s) (hb : b ∈ s)
    (h : compare (key a) (key b) = .eq) : a = b := by
  obtain ⟨i, hi, rfl⟩ := List.mem_iff_getElem.1 ha
  obtain ⟨j, hj, rfl⟩ := List.mem_iff_getElem.1 hb
  have increasing := List.pairwise_iff_getElem.1 s.increasing
  rcases Nat.lt_trichotomy i j with hij | rfl | hij
  · rw [increasing i j hi hj hij] at h; cases h
  · rfl
  · have := OrientedCmp.eq_symm h
    rw [increasing j i hj hi hij] at this; cases this

theorem mem_insertInto {a c : α} {l : List α}
    (h : l.Pairwise fun a b => compare (key a) (key b) = .lt) :
    c ∈ insertInto key a l ↔ c = a ∨ c ∈ l ∧ compare (key a) (key c) ≠ .eq := by
  induction l with
  | nil => simp [insertInto]
  | cons b rest ih =>
    obtain ⟨first, later⟩ := List.pairwise_cons.1 h
    rw [insertInto]
    split
    · next hlt =>
      have : ∀ d ∈ rest, compare (key a) (key d) ≠ .eq := fun d hd => by
        rw [TransCmp.lt_trans hlt (first d hd)]; decide
      grind
    · next heq =>
      have : ∀ d ∈ rest, compare (key a) (key d) ≠ .eq := fun d hd => by
        rw [TransCmp.lt_of_eq_of_lt heq (first d hd)]; decide
      grind
    · next hgt =>
      have := ih later
      grind

/-- After an insertion there are the new item and the old items with other keys. -/
@[simp] theorem mem_insert {s : SortedBy key} {a c : α} :
    c ∈ s.insert a ↔ c = a ∨ c ∈ s ∧ compare (key a) (key c) ≠ .eq :=
  mem_insertInto s.increasing

theorem find?_eq_some_iff {s : SortedBy key} {k : κ} {a : α} :
    s.find? k = some a ↔ a ∈ s ∧ compare k (key a) = .eq := by
  constructor
  · intro h
    exact ⟨List.mem_of_find?_eq_some h, by simpa using List.find?_some h⟩
  · rintro ⟨ha, hk⟩
    cases h : s.find? k with
    | none => exact absurd (List.find?_eq_none.1 h a ha) (by simp [hk])
    | some b =>
      have hb : b ∈ s := List.mem_of_find?_eq_some h
      have hkb : compare k (key b) = .eq := by simpa using List.find?_some h
      rw [eq_of_key hb ha (TransCmp.eq_trans (OrientedCmp.eq_symm hkb) hk)]

theorem contains_iff {s : SortedBy key} {k : κ} :
    s.contains k ↔ ∃ a ∈ s, compare k (key a) = .eq := by
  rw [contains, Option.isSome_iff_exists]
  simp [find?_eq_some_iff]

/-- A collection is determined by its members. -/
theorem ext_mem {s t : SortedBy key} (h : ∀ a, a ∈ s ↔ a ∈ t) : s = t := by
  have subset : ∀ {l m : List α},
      l.Pairwise (fun a b => compare (key a) (key b) = .lt) →
      m.Pairwise (fun a b => compare (key a) (key b) = .lt) →
      (∀ a, a ∈ l ↔ a ∈ m) → l = m := by
    intro l
    induction l with
    | nil =>
      intro m _ _ h
      cases m with
      | nil => rfl
      | cons b rest => exact absurd ((h b).2 (by simp)) (by simp)
    | cons a l ih =>
      intro m hl hm h
      cases m with
      | nil => exact absurd ((h a).1 (by simp)) (by simp)
      | cons b m =>
        obtain ⟨firstA, laterA⟩ := List.pairwise_cons.1 hl
        obtain ⟨firstB, laterB⟩ := List.pairwise_cons.1 hm
        have notBoth : ∀ {x y : α}, compare (key x) (key y) = .lt →
            compare (key y) (key x) = .lt → False := fun h₁ h₂ => by
          have := OrientedCmp.gt_of_lt h₁
          rw [h₂] at this; cases this
        have irreflexive : ∀ {x : α}, compare (key x) (key x) ≠ .lt := by
          intro x; simp
        have head : a = b := by
          rcases List.mem_cons.1 ((h a).1 (by simp)) with rfl | ham
          · rfl
          · rcases List.mem_cons.1 ((h b).2 (by simp)) with rfl | hbl
            · rfl
            · exact (notBoth (firstB a ham) (firstA b hbl)).elim
        subst head
        congr 1
        refine ih laterA laterB fun c => ⟨fun hc => ?_, fun hc => ?_⟩
        · rcases List.mem_cons.1 ((h c).1 (by simp [hc])) with rfl | hc'
          · exact (irreflexive (firstA c hc)).elim
          · exact hc'
        · rcases List.mem_cons.1 ((h c).2 (by simp [hc])) with rfl | hc'
          · exact (irreflexive (firstB c hc)).elim
          · exact hc'
  exact ext (subset s.increasing t.increasing h)

end SortedBy

/-! ### Sets -/

namespace SortedSet

variable {α β : Type} [Ord α] [Ord β] [TransOrd β]

/-- The images of the members of a set. -/
def image (s : SortedSet α) (f : α → β) : SortedSet β := SortedBy.ofList (s.toList.map f)

/-- Whether two sets have a member in common. -/
def intersects (s t : SortedSet α) : Bool := s.toList.any t.contains

variable [TransOrd α] [LawfulEqOrd α] [LawfulEqOrd β]

theorem mem_insert_iff {s : SortedSet α} {a c : α} : c ∈ s.insert a ↔ c = a ∨ c ∈ s := by
  rw [SortedBy.mem_insert]
  constructor
  · rintro (rfl | ⟨h, -⟩)
    · exact .inl rfl
    · exact .inr h
  · rintro (rfl | h)
    · exact .inl rfl
    · by_cases hca : c = a
      · exact .inl hca
      · exact .inr ⟨h, fun heq => hca (LawfulEqOrd.eq_of_compare heq).symm⟩

theorem mem_insertAll {s : SortedSet α} {l : List α} {c : α} :
    c ∈ s.insertAll l ↔ c ∈ s ∨ c ∈ l := by
  induction l generalizing s with
  | nil => simp [SortedBy.insertAll]
  | cons a l ih =>
    have step : s.insertAll (a :: l) = (s.insert a).insertAll l := rfl
    rw [step, ih, mem_insert_iff, List.mem_cons]
    constructor
    · rintro ((h | h) | h)
      · exact .inr (.inl h)
      · exact .inl h
      · exact .inr (.inr h)
    · rintro (h | h | h)
      · exact .inl (.inr h)
      · exact .inl (.inl h)
      · exact .inr h

@[simp] theorem mem_ofList {l : List α} {c : α} :
    c ∈ (SortedBy.ofList l : SortedSet α) ↔ c ∈ l := by
  rw [SortedBy.ofList, mem_insertAll]
  simp

@[simp] theorem contains_iff_mem {s : SortedSet α} {a : α} : s.contains a ↔ a ∈ s := by
  rw [SortedBy.contains_iff]
  constructor
  · rintro ⟨b, hb, h⟩
    exact LawfulEqOrd.eq_of_compare h ▸ hb
  · exact fun h => ⟨a, h, ReflCmp.compare_self⟩

omit [TransOrd α] [LawfulEqOrd α] in
@[simp] theorem mem_image {s : SortedSet α} {f : α → β} {b : β} :
    b ∈ s.image f ↔ ∃ a ∈ s, f a = b := by
  rw [image, mem_ofList, List.mem_map]
  rfl

theorem intersects_iff {s t : SortedSet α} : s.intersects t ↔ ∃ a ∈ s, a ∈ t := by
  rw [intersects, List.any_eq_true]
  simp only [contains_iff_mem]
  rfl

end SortedSet

end Mediatheque

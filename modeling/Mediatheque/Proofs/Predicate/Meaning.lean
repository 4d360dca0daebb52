import Mediatheque.Proofs.Predicate.Construction

/-!
# The meaning of leaves

What the leaves of predicates say of a record. They are read off values; that they can be read off
the attributes of a record as well rests on two laws: values stand for attributes one to one
(`LawfulValue`), and where attributes are ordered their values are ordered in the same way
(`OrderedValue`).
-/

namespace Mediatheque

open Std

/-! ### Values of attributes -/

/-- Values stand for the elements of a type one to one, and none of them is the missing value. -/
class LawfulValue (α : Type) [IsValue α] : Prop where
  /-- An element is determined by its value. -/
  eq_of_toValue : ∀ {a b : α}, toValue a = toValue b → a = b
  /-- No element appears as missing. -/
  toValue_ne_null : ∀ a : α, toValue a ≠ .null

/-- Values compare as the elements that they stand for. -/
class OrderedValue (α : Type) [IsValue α] [Ord α] : Prop where
  /-- The values of two elements compare, and as the elements do. -/
  compare?_toValue : ∀ a b : α, (toValue a).compare? (toValue b) = some (compare a b)

export LawfulValue (eq_of_toValue toValue_ne_null)
export OrderedValue (compare?_toValue)

theorem compare_toInt (a b : Int64) : compare a.toInt b.toInt = compare a b := by
  show compareOfLessAndEq a.toInt b.toInt = compareOfLessAndEq a b
  simp only [compareOfLessAndEq, Int64.lt_iff_toInt_lt, Int64.toInt_inj]

theorem compare_toNat (a b : UInt32) : compare a.toNat b.toNat = compare a b := by
  show compareOfLessAndEq a.toNat b.toNat = compareOfLessAndEq a b
  simp only [compareOfLessAndEq, UInt32.lt_iff_toNat_lt, UInt32.toNat_inj]

theorem compare_natCast (n m : Nat) : compare (n : Int) (m : Int) = compare n m := by
  show compareOfLessAndEq (n : Int) (m : Int) = compareOfLessAndEq n m
  simp only [compareOfLessAndEq, Int.ofNat_lt, Int.ofNat_inj]

/-- A number of 32 bits is stored as it is. -/
theorem toInt_ofNat_toNat (n : UInt32) : (Int64.ofNat n.toNat).toInt = n.toNat :=
  Int64.toInt_ofNat_of_lt (by have := n.toNat_lt; omega)

/-- A number of half stars is stored as it is. -/
theorem toInt_ofNat_halfStars (r : StarRating) :
    (Int64.ofNat r.halfStars.val).toInt = r.halfStars.val :=
  Int64.toInt_ofNat_of_lt (by have := r.halfStars.isLt; omega)

instance : LawfulValue Bool := ⟨fun h => by cases h; rfl, fun _ h => by cases h⟩

instance : LawfulValue Int64 := ⟨fun h => by cases h; rfl, fun _ h => by cases h⟩

instance : LawfulValue Date := ⟨fun h => by cases h; rfl, fun _ h => by cases h⟩

instance : LawfulValue UInt32 where
  eq_of_toValue {a b} h := by
    have h : (Int64.ofNat a.toNat).toInt = (Int64.ofNat b.toNat).toInt := by
      rw [Value.int.inj h]
    rw [toInt_ofNat_toNat, toInt_ofNat_toNat] at h
    exact UInt32.toNat.inj (Int.ofNat_inj.1 h)
  toValue_ne_null _ h := by cases h

instance : LawfulValue StarRating where
  eq_of_toValue {a b} h := by
    have h : (Int64.ofNat a.halfStars.val).toInt = (Int64.ofNat b.halfStars.val).toInt := by
      rw [Value.int.inj h]
    rw [toInt_ofNat_halfStars, toInt_ofNat_halfStars] at h
    cases a; cases b
    exact congrArg _ (Fin.ext (Int.ofNat_inj.1 h))
  toValue_ne_null _ h := by cases h

instance : LawfulValue Genre where
  eq_of_toValue {a b} h := by
    cases a; cases b
    exact congrArg _ (eq_of_toValue h)
  toValue_ne_null g := toValue_ne_null g.number

instance : LawfulValue MediaKind :=
  ⟨fun h => Named.name_injective (Value.text.inj h), fun _ h => by cases h⟩

instance : LawfulValue ProductionStatus :=
  ⟨fun h => Named.name_injective (Value.text.inj h), fun _ h => by cases h⟩

instance : LawfulValue ShowFormat :=
  ⟨fun h => Named.name_injective (Value.text.inj h), fun _ h => by cases h⟩

instance {kind : IdKind} : LawfulValue (Id kind) where
  eq_of_toValue {a b} h := by
    cases a; cases b
    exact congrArg _ (Value.uuid.inj h)
  toValue_ne_null _ h := by cases h

instance : OrderedValue Int64 := ⟨fun _ _ => rfl⟩

instance : OrderedValue Date := ⟨fun _ _ => rfl⟩

instance : OrderedValue UInt32 where
  compare?_toValue a b := by
    show some (compare (Int64.ofNat a.toNat) (Int64.ofNat b.toNat)) = _
    rw [← compare_toInt, toInt_ofNat_toNat, toInt_ofNat_toNat, compare_natCast, compare_toNat]

instance : OrderedValue StarRating where
  compare?_toValue a b := by
    show some (compare (Int64.ofNat a.halfStars.val) (Int64.ofNat b.halfStars.val)) = _
    rw [← compare_toInt, toInt_ofNat_halfStars, toInt_ofNat_halfStars, compare_natCast]
    rfl

/-! ### Leaves -/

namespace Value

variable {α : Type} [IsValue α] [Ord α] [OrderedValue α]

/-- To be above a closed bound is not to be less than it. -/
@[simp] theorem isAbove_closed (a b : α) :
    (toValue a).isAbove (some (toValue b)) true = (compare a b).isGE := by
  simp only [isAbove, compare?_toValue]
  cases compare a b <;> rfl

/-- To be below a closed bound is not to be greater than it. -/
@[simp] theorem isBelow_closed (a b : α) :
    (toValue a).isBelow (some (toValue b)) true = (compare a b).isLE := by
  simp only [isBelow, compare?_toValue]
  cases compare a b <;> rfl

/-- To be below an open bound is to be less than it. -/
@[simp] theorem isBelow_open (a b : α) :
    (toValue a).isBelow (some (toValue b)) false = (compare a b).isLT := by
  simp only [isBelow, compare?_toValue]
  cases compare a b <;> rfl

end Value

namespace Predicate

variable {α : Type} [IsValue α] [LawfulValue α] {r : MediaRecord} {f : Field}

theorem toValue_inj {a b : α} : toValue a = toValue b ↔ a = b := ⟨eq_of_toValue, congrArg _⟩

/-- What is known appears as its value, and what is not as the missing value. -/
theorem toValue_option_eq_iff {o : Option α} {a : α} : toValue o = toValue a ↔ o = some a := by
  cases o with
  | none =>
    constructor
    · intro h
      exact absurd h.symm (toValue_ne_null a)
    · intro h
      cases h
  | some b =>
    show toValue b = toValue a ↔ _
    rw [toValue_inj, Option.some.injEq]

/-- A field that every record knows has the value asked for if it is the same. -/
theorem holds_is_known_iff {a b : α} (hf : r.fieldValue f = .scalar (toValue b)) :
    (Predicate.is f a).holds r ↔ b = a := by
  rw [Predicate.is, holds, hf, FieldValue.equals, beq_iff_eq, toValue_inj]

/-- A field has the value asked for if it is known and the same. -/
theorem holds_is_iff {o : Option α} {a : α} (hf : r.fieldValue f = .scalar (toValue o)) :
    (Predicate.is f a).holds r ↔ o = some a := by
  rw [Predicate.is, holds, hf, FieldValue.equals, beq_iff_eq, toValue_option_eq_iff]

/-- A single value is unknown if the record does not have it. -/
theorem holds_isUnknown_iff {o : Option α} (hf : r.fieldValue f = .scalar (toValue o)) :
    (isUnknown f).holds r ↔ o = none := by
  rw [isUnknown, holds, hf, FieldValue.equals, beq_iff_eq]
  cases o with
  | none => exact ⟨fun _ => rfl, fun _ => rfl⟩
  | some a =>
    constructor
    · intro h
      exact absurd h (toValue_ne_null a)
    · intro h
      cases h

/-- A single value lies within bounds if it is known and lies within them. -/
theorem holds_within_iff {o : Option α} {lower upper : Option Value}
    {lowerClosed upperClosed : Bool} (hf : r.fieldValue f = .scalar (toValue o)) :
    (Predicate.within f lower upper lowerClosed upperClosed).holds r ↔
      ∃ a, o = some a ∧ (toValue a).isAbove lower lowerClosed ∧
        (toValue a).isBelow upper upperClosed := by
  rw [holds, hf, FieldValue.hasValue]
  cases o with
  | none =>
    constructor
    · intro h
      cases h
    · rintro ⟨a, h, -⟩
      cases h
  | some a =>
    have known : (toValue a).isNull = false := by
      rw [Value.isNull, beq_eq_false_iff_ne]
      exact toValue_ne_null a
    show (toValue a).liesWithin lower upper lowerClosed upperClosed ↔ _
    simp [Value.liesWithin, known]

/-- A single value lies between closed bounds if it is known and between them. -/
theorem holds_between_iff [Ord α] [OrderedValue α] {o : Option α} {low high : α}
    (hf : r.fieldValue f = .scalar (toValue o)) :
    (between f low high).holds r ↔
      ∃ a, o = some a ∧ (compare a low).isGE ∧ (compare a high).isLE := by
  rw [between, holds_within_iff hf]
  simp only [Value.isAbove_closed, Value.isBelow_closed]

/-- A single value is at a bound or above it if it is known and not less. -/
theorem holds_atLeast_iff [Ord α] [OrderedValue α] {o : Option α} {low : α}
    (hf : r.fieldValue f = .scalar (toValue o)) :
    (atLeast f low).holds r ↔ ∃ a, o = some a ∧ (compare a low).isGE := by
  rw [atLeast, holds_within_iff hf]
  simp [Value.isBelow]

/-- A single value is one of several if it is known and among them. -/
theorem holds_isIn_iff {o : Option α} {l : List α} (hf : r.fieldValue f = .scalar (toValue o)) :
    (isIn f l).holds r ↔ ∃ a, o = some a ∧ a ∈ l := by
  rw [isIn, holds, hf, FieldValue.oneOf, SortedSet.contains_iff_mem, SortedSet.mem_ofList,
    List.mem_map]
  constructor
  · rintro ⟨a, ha, h⟩
    exact ⟨a, toValue_option_eq_iff.1 h.symm, ha⟩
  · rintro ⟨a, rfl, ha⟩
    exact ⟨a, ha, rfl⟩

/-- A set-valued field has one of several values if it has one of them as a member. -/
theorem holds_isIn_set_iff [Ord α] {s : SortedSet α} {l : List α}
    (hf : r.fieldValue f = .set (s.image toValue)) :
    (isIn f l).holds r ↔ ∃ a ∈ l, a ∈ s := by
  rw [isIn, holds, hf, FieldValue.oneOf, SortedSet.intersects_iff]
  simp only [SortedSet.mem_image, SortedSet.mem_ofList, List.mem_map]
  constructor
  · rintro ⟨-, ⟨a, ha, rfl⟩, b, hb, h⟩
    exact ⟨b, hb, toValue_inj.1 h ▸ ha⟩
  · rintro ⟨a, hl, hs⟩
    exact ⟨_, ⟨a, hs, rfl⟩, a, hl, rfl⟩

@[simp] theorem holds_isMovie (r : MediaRecord) : isMovie.holds r ↔ r.kind = .movie :=
  holds_is_known_iff rfl

@[simp] theorem holds_isShow (r : MediaRecord) : isShow.holds r ↔ r.kind = .series :=
  holds_is_known_iff rfl

end Predicate

end Mediatheque

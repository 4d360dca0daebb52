import Mediatheque.Proofs.Json.Depth

/-!
# JSON text is read back

The text of a value is read as its tokens, and its tokens as the value, except that containers
nested too deeply become unreadable (`ofText?_toText`). What is read of any text keeps to the same
bound: a value without an unreadable part is not nested too deeply (`depth_le_of_ofText?`).
-/

namespace Mediatheque.Json

/-! ### Tokens of a value -/

theorem isNumber_of_mem_head?_laterItems {items : List Json} {t : Token}
    (h : t ∈ (laterItems items).head?) : t.isNumber = false := by
  cases items with
  | nil => cases h
  | cons j items => cases h; rfl

theorem isNumber_of_mem_head?_laterMembers {members : List (String × Json)} {t : Token}
    (h : t ∈ (laterMembers members).head?) : t.isNumber = false := by
  cases members with
  | nil => cases h
  | cons m members => cases h; rfl

theorem isReadBack_laterItems {items : List Json} (h : ∀ j ∈ items, IsReadBack j.tokens) :
    IsReadBack (laterItems items) := by
  induction items with
  | nil => exact isReadBack_nil
  | cons j items ih =>
    obtain ⟨first, later⟩ := List.forall_mem_cons.1 h
    have value := first.append (ih later) fun _ => isNumber_of_mem_head?_laterItems
    exact isReadBack_cons trivial nofun value

theorem isReadBack_laterMembers {members : List (String × Json)}
    (h : ∀ m ∈ members, IsReadBack m.2.tokens) : IsReadBack (laterMembers members) := by
  induction members with
  | nil => exact isReadBack_nil
  | cons m members ih =>
    obtain ⟨first, later⟩ := List.forall_mem_cons.1 h
    have value := first.append (ih later) fun _ => isNumber_of_mem_head?_laterMembers
    exact isReadBack_cons trivial nofun <| isReadBack_cons trivial nofun <|
      isReadBack_cons trivial nofun value

/-- The tokens of a value are read back from their text. -/
theorem IsExact.isReadBack_tokens {j : Json} (exact : j.IsExact) : IsReadBack j.tokens := by
  have single : ∀ t : Token, t.IsExact → IsReadBack [t] := fun t ht =>
    isReadBack_cons ht (fun _ _ h => by cases h) isReadBack_nil
  have closing : ∀ {ts : List Token} {t : Token}, IsReadBack ts → t.IsExact →
      t.isNumber = false → IsReadBack (ts ++ [t]) := fun h ht number =>
    h.append (single _ ht) fun _ ht' => by cases ht'; exact number
  induction exact with
  | null => exact single _ trivial
  | bool b => exact single _ trivial
  | int h => exact single _ h
  | str s => exact single _ trivial
  | @arr items _ ih =>
    cases items with
    | nil => exact isReadBack_cons trivial nofun (single _ trivial)
    | cons j items =>
      obtain ⟨first, later⟩ := List.forall_mem_cons.1 ih
      have values := first.append (isReadBack_laterItems later) fun _ =>
        isNumber_of_mem_head?_laterItems
      exact isReadBack_cons trivial nofun (closing values trivial rfl)
  | @obj members _ ih =>
    cases members with
    | nil => exact isReadBack_cons trivial nofun (single _ trivial)
    | cons m members =>
      obtain ⟨first, later⟩ := List.forall_mem_cons.1 ih
      have values := first.append (isReadBack_laterMembers later) fun _ =>
        isNumber_of_mem_head?_laterMembers
      exact isReadBack_cons trivial nofun <| isReadBack_cons trivial nofun <|
        isReadBack_cons trivial nofun (closing values trivial rfl)

/-- The text of a value is read as its tokens. -/
theorem IsExact.scan?_toText {j : Json} (exact : j.IsExact) : scan? j.toText = some j.tokens := by
  have read := exact.isReadBack_tokens [] nofun
  rw [List.append_nil] at read
  rw [toText, read]
  simp [scan?]

/-! ### Reading tokens -/

/-- The tokens of a value are not none, and the first one does not close an array. -/
theorem tokens_eq_cons (j : Json) : ∃ t ts, j.tokens = t :: ts ∧ t ≠ .closeArray := by
  cases j with
  | arr items => cases items <;> exact ⟨_, _, rfl, nofun⟩
  | obj members => cases members <;> exact ⟨_, _, rfl, nofun⟩
  | _ => exact ⟨_, _, rfl, nofun⟩

theorem run_cons {p p' : Position} {t : Token} (h : p.step t = some p') (ts : List Token) :
    p.run (t :: ts) = p'.run ts := by
  rw [Position.run, h, Option.bind_some]

theorem step_firstItem {around : List Frame} {t : Token} (opens : t ≠ .closeArray) :
    Position.step ⟨around, .firstItem⟩ t = readValue around t := by
  cases t <;> first | rfl | exact absurd rfl opens

/-- The first item of an array is read like any value. -/
theorem run_firstItem (around : List Frame) (j : Json) (rest : List Token) :
    Position.run ⟨around, .firstItem⟩ (j.tokens ++ rest) =
      Position.run ⟨around, .value⟩ (j.tokens ++ rest) := by
  obtain ⟨t, ts, tokens, opens⟩ := j.tokens_eq_cons
  rw [tokens, List.cons_append, Position.run, Position.run, step_firstItem opens]
  rfl

/-- What it is to read the tokens of a value, where a value is due: the value has just ended. -/
def IsReadAs (j : Json) : Prop :=
  ∀ (around : List Frame) (rest : List Token),
    Position.run ⟨around, .value⟩ (j.tokens ++ rest) =
      Position.run ⟨around, .next (capped around.length j)⟩ rest

/-- An array is read to its end. -/
theorem run_laterItems {items : List Json} (h : ∀ j ∈ items, j.IsReadAs) (around : List Frame)
    (before : List Json) (j : Json) (rest : List Token) :
    Position.run ⟨.items before :: around, .next j⟩ (laterItems items ++ .closeArray :: rest) =
      Position.run ⟨around, .next (contained (around.length + 1)
        (.arr (before.reverse ++ j :: cappedItems (around.length + 1) items)))⟩ rest := by
  induction items generalizing before j with
  | nil =>
    rw [laterItems, List.nil_append, run_cons rfl, List.reverse_cons, cappedItems]
  | cons j' items ih =>
    obtain ⟨first, later⟩ := List.forall_mem_cons.1 h
    have tokens : laterItems (j' :: items) ++ .closeArray :: rest =
        .comma :: (j'.tokens ++ (laterItems items ++ .closeArray :: rest)) := by
      simp [laterItems]
    rw [tokens, run_cons rfl, first, List.length_cons, ih later, cappedItems, List.reverse_cons,
      List.append_assoc, List.singleton_append]

/-- A function that fails nowhere on a list is applied to all of it. -/
theorem mapM_eq_some_map {α β : Type} {f : α → Option β} {g : α → β} {l : List α}
    (h : ∀ a ∈ l, f a = some (g a)) : l.mapM f = some (l.map g) := by
  induction l with
  | nil => rfl
  | cons a l ih =>
    obtain ⟨first, later⟩ := List.forall_mem_cons.1 h
    rw [List.mapM_cons, first, ih later]
    rfl

/-- An object is read with its members, as all its keys have a text. -/
theorem object_eq_obj (before : List (String × Json)) :
    object (before.map fun m => (some m.1, m.2)) = .obj before.reverse := by
  rw [object, ← List.map_reverse, List.mapM_map, mapM_eq_some_map (g := id), List.map_id]
  exact fun _ _ => rfl

/-- An object is read to its end. -/
theorem run_laterMembers {members : List (String × Json)} (h : ∀ m ∈ members, m.2.IsReadAs)
    (around : List Frame) (before : List (String × Json)) (k : String) (j : Json)
    (rest : List Token) :
    Position.run ⟨.members (before.map fun m => (some m.1, m.2)) (some k) :: around, .next j⟩
        (laterMembers members ++ .closeObject :: rest) =
      Position.run ⟨around, .next (contained (around.length + 1)
        (.obj (before.reverse ++ (k, j) :: cappedMembers (around.length + 1) members)))⟩ rest := by
  induction members generalizing before k j with
  | nil =>
    have closed := object_eq_obj ((k, j) :: before)
    rw [List.map_cons] at closed
    rw [laterMembers, List.nil_append, run_cons rfl, closed, List.reverse_cons, cappedMembers]
  | cons m members ih =>
    obtain ⟨first, later⟩ := List.forall_mem_cons.1 h
    have tokens : laterMembers (m :: members) ++ .closeObject :: rest =
        .comma :: .str (some m.1) :: .colon ::
          (m.2.tokens ++ (laterMembers members ++ .closeObject :: rest)) := by
      simp [laterMembers]
    have others := ih later ((k, j) :: before) m.1 (capped (around.length + 1) m.2)
    rw [List.map_cons, List.reverse_cons, List.append_assoc, List.singleton_append] at others
    rw [tokens, run_cons rfl, run_cons rfl, run_cons rfl, first, List.length_cons, others,
      cappedMembers]

/-- The tokens of a value are read as it, with what is nested too deeply unreadable. -/
theorem IsExact.isReadAs {j : Json} (exact : j.IsExact) : j.IsReadAs := by
  induction exact with
  | @arr items _ ih =>
    intro around rest
    cases items with
    | nil => rfl
    | cons j items =>
      obtain ⟨first, later⟩ := List.forall_mem_cons.1 ih
      have tokens : (Json.arr (j :: items)).tokens ++ rest =
          .openArray :: (j.tokens ++ (laterItems items ++ .closeArray :: rest)) := by
        simp [Json.tokens]
      rw [tokens, run_cons rfl, run_firstItem, first, run_laterItems later, capped, cappedItems]
      rfl
  | @obj members _ ih =>
    intro around rest
    cases members with
    | nil => rfl
    | cons m members =>
      obtain ⟨first, later⟩ := List.forall_mem_cons.1 ih
      have tokens : (Json.obj (m :: members)).tokens ++ rest =
          .openObject :: .str (some m.1) :: .colon ::
            (m.2.tokens ++ (laterMembers members ++ .closeObject :: rest)) := by
        simp [Json.tokens]
      have others := run_laterMembers later around [] m.1 (capped (around.length + 1) m.2)
      rw [tokens, run_cons rfl, run_cons rfl, run_cons rfl, first]
      exact others rest
  | _ => exact fun _ _ => rfl

/-- A value is read back from its text, with what is nested too deeply unreadable. -/
theorem IsExact.ofText?_toText {j : Json} (exact : j.IsExact) :
    ofText? j.toText = some (capped 0 j) := by
  have read := exact.isReadAs [] []
  rw [List.append_nil] at read
  rw [ofText?, exact.scan?_toText, Option.bind_some, ofTokens?, read]
  rfl

/-! ### What is read of any text -/

/-- A value that is read inside of a number of containers: unless a part of it is unreadable, it
is not nested too deeply. -/
def Keeps (level : Nat) (j : Json) : Prop := j.isReadable → j.depth ≤ maxDepth - level

/-- What a list is mapped to comes from its items. -/
theorem exists_of_mem_mapM {α β : Type} {f : α → Option β} {l : List α} {m : List β}
    (h : l.mapM f = some m) {b : β} (hb : b ∈ m) : ∃ a ∈ l, f a = some b := by
  induction l generalizing m with
  | nil =>
    cases h
    cases hb
  | cons a l ih =>
    simp only [List.mapM_cons, Option.bind_eq_bind, Option.bind_eq_some_iff, Option.pure_def,
      Option.some.injEq] at h
    obtain ⟨c, hc, m, hm, rfl⟩ := h
    rcases List.mem_cons.1 hb with rfl | hb
    · exact ⟨a, List.mem_cons_self, hc⟩
    · obtain ⟨a', ha', hb⟩ := ih hm hb
      exact ⟨a', List.mem_cons_of_mem a ha', hb⟩

/-- A container keeps to the bound if its parts do. -/
theorem keeps_contained_arr {level : Nat} {items : List Json}
    (h : ∀ j ∈ items, Keeps (level + 1) j) : Keeps level (contained (level + 1) (.arr items)) := by
  intro readable
  obtain ⟨room, parts⟩ := isReadable_contained_iff.1 readable
  rw [contained, if_pos room, depth_arr_le_iff]
  refine ⟨by omega, fun j hj => ?_⟩
  have bound := h j hj (isReadable_arr_iff.1 parts j hj)
  omega

theorem keeps_contained_object {level : Nat} (before : List (Option String × Json))
    (h : ∀ m ∈ before, Keeps (level + 1) m.2) :
    Keeps level (contained (level + 1) (object before)) := by
  intro readable
  obtain ⟨room, parts⟩ := isReadable_contained_iff.1 readable
  rw [contained, if_pos room]
  unfold object at parts ⊢
  split
  · next members keys =>
    rw [keys] at parts
    refine depth_obj_le_iff.2 ⟨by omega, fun m hm => ?_⟩
    obtain ⟨m', hm', key⟩ := exists_of_mem_mapM keys hm
    obtain ⟨k, -, rfl⟩ := Option.map_eq_some_iff.1 key
    have bound := h m' (List.mem_reverse.1 hm') (isReadable_obj_iff.1 parts _ hm)
    exact Nat.lt_of_le_of_lt bound (by omega)
  · exact Nat.zero_le _

/-- What is open around a value keeps to the bound. -/
def FramesKeep : List Frame → Prop
  | [] => True
  | .items before :: around => (∀ j ∈ before, Keeps (around.length + 1) j) ∧ FramesKeep around
  | .members before _ :: around =>
    (∀ m ∈ before, Keeps (around.length + 1) m.2) ∧ FramesKeep around

/-- What has been read of the container in which something is due keeps to the bound. -/
def DueKeeps (level : Nat) : Due → Prop
  | .key before => ∀ m ∈ before, Keeps (level + 1) m.2
  | .colon before _ => ∀ m ∈ before, Keeps (level + 1) m.2
  | .next j => Keeps level j
  | _ => True

/-- What has been read at a position keeps to the bound. -/
structure Position.Keeps (p : Position) : Prop where
  /-- It does in the containers around. -/
  around : FramesKeep p.around
  /-- It does where something is due. -/
  due : DueKeeps p.around.length p.due

/-- A leaf keeps to any bound. -/
theorem keeps_of_depth_eq_zero {level : Nat} {j : Json} (h : j.depth = 0) : Keeps level j := by
  intro _
  omega

/-- The bound is kept where a value begins. -/
theorem keeps_readValue {around : List Frame} (h : FramesKeep around) {t : Token} {p : Position}
    (read : readValue around t = some p) : p.Keeps := by
  unfold readValue at read
  split at read
  case h_8 => cases read; exact ⟨⟨nofun, h⟩, trivial⟩
  case h_9 => cases read; exact ⟨h, trivial⟩
  case h_10 => cases read
  all_goals
    cases read
    exact ⟨h, keeps_of_depth_eq_zero rfl⟩

/-- The bound is kept after a value. -/
theorem keeps_step_next {around : List Frame} {j : Json} (h : Position.Keeps ⟨around, .next j⟩)
    {t : Token} {p : Position} (read : Position.step ⟨around, .next j⟩ t = some p) : p.Keeps := by
  obtain ⟨frames, value⟩ := h
  cases around with
  | nil => cases t <;> cases read
  | cons frame around =>
    cases frame with
    | items before =>
      have all : ∀ j' ∈ j :: before, Keeps (around.length + 1) j' :=
        List.forall_mem_cons.2 ⟨value, frames.1⟩
      cases t with
      | comma =>
        cases read
        exact ⟨⟨all, frames.2⟩, trivial⟩
      | closeArray =>
        cases read
        exact ⟨frames.2, keeps_contained_arr fun j' hj' => all j' (List.mem_reverse.1 hj')⟩
      | _ => cases read
    | members before k =>
      have all : ∀ m ∈ (k, j) :: before, Keeps (around.length + 1) m.2 :=
        List.forall_mem_cons.2 ⟨value, frames.1⟩
      cases t with
      | comma =>
        cases read
        exact ⟨frames.2, all⟩
      | closeObject =>
        cases read
        exact ⟨frames.2, keeps_contained_object _ all⟩
      | _ => cases read

/-- The bound is kept by reading a token. -/
theorem Position.Keeps.step {p p' : Position} {t : Token} (h : p.Keeps)
    (read : p.step t = some p') : p'.Keeps := by
  obtain ⟨around, due⟩ := p
  have frames := h.around
  have before := h.due
  cases due with
  | firstItem =>
    by_cases closes : t = .closeArray
    · subst closes
      cases read
      cases around with
      | nil => exact ⟨trivial, fun _ => by decide⟩
      | cons frame around =>
        cases frame with
        | items _ => exact ⟨frames.2, keeps_contained_arr nofun⟩
        | members _ _ => exact ⟨frames.2, keeps_contained_arr nofun⟩
    · rw [step_firstItem closes] at read
      exact keeps_readValue frames read
  | value => exact keeps_readValue frames read
  | firstKey =>
    cases t with
    | closeObject =>
      cases read
      exact ⟨frames, keeps_contained_object [] nofun⟩
    | str k =>
      cases read
      exact ⟨frames, nofun⟩
    | _ => cases read
  | key members =>
    cases t with
    | str k =>
      cases read
      exact ⟨frames, before⟩
    | _ => cases read
  | colon members k =>
    cases t with
    | colon =>
      cases read
      exact ⟨⟨before, frames⟩, trivial⟩
    | _ => cases read
  | next j => exact keeps_step_next h read

/-- The bound is kept by reading tokens. -/
theorem Position.Keeps.run {p p' : Position} {ts : List Token} (h : p.Keeps)
    (read : p.run ts = some p') : p'.Keeps := by
  induction ts generalizing p with
  | nil => cases read; exact h
  | cons t ts ih =>
    obtain ⟨q, first, later⟩ := Option.bind_eq_some_iff.1 read
    exact ih (h.step first) later

/-- A value that is read of a text is not nested too deeply, unless a part of it is unreadable. -/
theorem depth_le_of_ofText? {s : List Char} {j : Json} (h : ofText? s = some j)
    (readable : j.isReadable) : j.depth ≤ maxDepth := by
  obtain ⟨ts, -, h⟩ := Option.bind_eq_some_iff.1 h
  unfold ofTokens? at h
  split at h
  · next read =>
    have start : Position.Keeps ⟨[], .value⟩ := ⟨trivial, trivial⟩
    cases h
    exact (start.run read).due readable
  · cases h

end Mediatheque.Json

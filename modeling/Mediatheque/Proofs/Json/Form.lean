import Mediatheque.Json.Form
import Mediatheque.Proofs.Calendar.Text
import Mediatheque.Proofs.Identity
import Mediatheque.Proofs.Json.Text

/-!
# Laws of JSON forms

A form is lawful if it is written without loss and read back (`LawfulJsonForm`), and minimal if no
other form of the same value is nested less deeply (`MinimalJsonForm`). The text of a value with a
lawful form is read back exactly if the form is not nested too deeply
(`Json.ofReadableText_textOf`), and if moreover the form is minimal, whatever was read from a text
has a form that is not (`Json.depth_le_of_ofReadableText`).
-/

namespace Mediatheque

/-- A JSON form that is written without loss and read back in every manner. -/
class LawfulJsonForm (α : Type) [JsonForm α] : Prop where
  /-- Nothing of the form is lost in a text. -/
  isExact_toJson : ∀ a : α, (toJson a).IsExact
  /-- A value is read back from its form. -/
  as?_toJson : ∀ (manner : Json.Manner) (a : α), (toJson a).as? α manner = some a

/-- A JSON form that is nested no deeper than any other form from which the value is read. -/
class MinimalJsonForm (α : Type) [JsonForm α] : Prop where
  /-- Every other form is nested at least as deeply. -/
  depth_toJson_le : ∀ {manner : Json.Manner} {j : Json} {a : α},
    j.as? α manner = some a → (toJson a).depth ≤ j.depth

/-- A JSON form that is never the value without content. -/
class ContentJsonForm (α : Type) [JsonForm α] : Prop where
  /-- The form has content. -/
  toJson_ne_null : ∀ a : α, toJson a ≠ .null

export LawfulJsonForm (isExact_toJson as?_toJson)
export MinimalJsonForm (depth_toJson_le)
export ContentJsonForm (toJson_ne_null)

namespace Json

/-! ### Texts -/

/-- The text of what is written without loss and not nested too deeply is read back. -/
theorem IsExact.readBack {j : Json} (exact : j.IsExact) (shallow : j.depth ≤ maxDepth) :
    ofText? j.toText = some j ∧ j.isReadable := by
  have same : capped 0 j = j := exact.capped_eq_self shallow
  have readable := (exact.isReadable_capped_iff 0).2 shallow
  rw [same] at readable
  rw [exact.ofText?_toText, same]
  exact ⟨rfl, readable⟩

variable {α : Type} [JsonForm α]

/-- The text of a value is read back as the value, unless its form is nested too deeply. -/
theorem ofReadableText_textOf [LawfulJsonForm α] (a : α) :
    ofReadableText α (textOf a) = if (toJson a).depth ≤ maxDepth then some a else none := by
  have exact := isExact_toJson a
  have readable := exact.isReadable_capped_iff 0
  rw [ofReadableText, textOf, String.toList_ofList, exact.ofText?_toText, Option.filter_some]
  by_cases shallow : (toJson a).depth ≤ maxDepth
  · have same : capped 0 (toJson a) = toJson a := exact.capped_eq_self shallow
    rw [if_pos shallow, if_pos (readable.2 shallow), Option.bind_some, same, as?_toJson]
  · rw [if_neg shallow, if_neg (mt readable.1 shallow), Option.bind_none]

/-- What is read from a text has a form that is not nested too deeply. -/
theorem depth_le_of_ofReadableText [MinimalJsonForm α] {s : String} {a : α}
    (h : ofReadableText α s = some a) : (toJson a).depth ≤ maxDepth := by
  obtain ⟨j, read, value⟩ := Option.bind_eq_some_iff.1 h
  obtain ⟨read, readable⟩ := Option.filter_eq_some_iff.1 read
  exact Nat.le_trans (depth_toJson_le value) (depth_le_of_ofText? read readable)

end Json

/-! ### Plain values -/

section Plain

variable {α : Type} [JsonForm α]

/-- A form without containers is minimal. -/
theorem minimalJsonForm_of_depth (h : ∀ a : α, (toJson a).depth = 0) : MinimalJsonForm α where
  depth_toJson_le {_ _ a} _ := by
    rw [h a]
    exact Nat.zero_le _

end Plain

instance : LawfulJsonForm Bool where
  isExact_toJson b := .bool b
  as?_toJson _ _ := rfl

instance : MinimalJsonForm Bool := minimalJsonForm_of_depth fun _ => rfl

instance : LawfulJsonForm String where
  isExact_toJson s := .str s
  as?_toJson _ _ := rfl

instance : LawfulJsonForm Int64 where
  isExact_toJson i := .int ⟨i.minValue_le_toInt, by
    have size : UInt64.size = 18446744073709551616 := rfl
    have := i.toInt_lt
    omega⟩
  as?_toJson _ i := by
    have within : Int64.minValue.toInt ≤ i.toInt ∧ i.toInt ≤ Int64.maxValue.toInt :=
      ⟨i.minValue_le_toInt, i.toInt_le⟩
    simp only [Json.as?, JsonForm.ofJson?, toJson, Json.intWithin?, if_pos within, Option.map_some,
      Int64.ofInt_toInt]

/-- Integers of 32 bits fit, with or without a sign. -/
theorem fits_of_bounds {i : Int} (low : -2147483648 ≤ i) (high : i < 4294967296) :
    Json.Number.Fits i := by
  have least : Int64.minValue.toInt = -9223372036854775808 := rfl
  have size : UInt64.size = 18446744073709551616 := rfl
  rw [Json.Number.Fits, least, size]
  omega

instance : LawfulJsonForm UInt32 where
  isExact_toJson n := .int (fits_of_bounds (by omega) (Int.ofNat_lt.2 n.toNat_lt))
  as?_toJson _ n := by
    have within : 0 ≤ (n.toNat : Int) ∧ (n.toNat : Int) ≤ UInt32.size - 1 := by
      have size : UInt32.size = 4294967296 := rfl
      have := n.toNat_lt
      omega
    simp only [Json.as?, JsonForm.ofJson?, toJson, Json.intWithin?, if_pos within, Option.map_some,
      Int.toNat_natCast, UInt32.ofNat_toNat]

instance : LawfulJsonForm Int32 where
  isExact_toJson i := .int (fits_of_bounds i.le_toInt (Int.lt_trans i.toInt_lt (by decide)))
  as?_toJson _ i := by
    have within : Int32.minValue.toInt ≤ i.toInt ∧ i.toInt ≤ Int32.maxValue.toInt :=
      ⟨i.minValue_le_toInt, i.toInt_le⟩
    simp only [Json.as?, JsonForm.ofJson?, toJson, Json.intWithin?, if_pos within, Option.map_some,
      Int32.ofInt_toInt]

instance : LawfulJsonForm Date where
  isExact_toJson _ := .str _
  as?_toJson _ d := by
    simp only [Json.as?, JsonForm.ofJson?, toJson, Json.ofChars, Json.str?, Option.bind_some,
      String.toList_ofList, Date.ofText?_toText]

instance : LawfulJsonForm Uuid where
  isExact_toJson _ := .str _
  as?_toJson _ u := by
    simp only [Json.as?, JsonForm.ofJson?, toJson, Json.ofChars, Json.str?, Option.bind_some,
      String.toList_ofList, Uuid.ofText?_toText]

instance {kind : IdKind} : LawfulJsonForm (Id kind) where
  isExact_toJson i := isExact_toJson i.uuid
  as?_toJson manner i := by
    have read := as?_toJson manner i.uuid
    simp only [Json.as?, JsonForm.ofJson?, toJson] at read ⊢
    rw [read, Option.map_some]

instance {α : Type} [Named α] : LawfulJsonForm α where
  isExact_toJson _ := .str _
  as?_toJson _ a := Named.ofName?_name a

instance {α : Type} [Named α] : MinimalJsonForm α := minimalJsonForm_of_depth fun _ => rfl

instance : ContentJsonForm Bool := ⟨fun _ => nofun⟩

instance {α : Type} [Named α] : ContentJsonForm α := ⟨fun _ => nofun⟩

/-! ### Optional values and lists -/

section Parts

variable {α : Type} [JsonForm α]

/-- A value is read if there is content. -/
theorem as?_option {j : Json} (h : j ≠ .null) (manner : Json.Manner) :
    j.as? (Option α) manner = (j.as? α manner).map some := by
  cases j with
  | null => exact absurd rfl h
  | _ => rfl

theorem isExact_toJson_option (h : ∀ a : α, (toJson a).IsExact) (o : Option α) :
    (toJson o).IsExact := by
  cases o with
  | none => exact .null
  | some a => exact h a

instance [LawfulJsonForm α] [ContentJsonForm α] : LawfulJsonForm (Option α) where
  isExact_toJson := isExact_toJson_option isExact_toJson
  as?_toJson manner o := by
    cases o with
    | none => rfl
    | some a =>
      have read := as?_option (α := α) (toJson_ne_null a) manner
      rw [as?_toJson] at read
      exact read

instance [MinimalJsonForm α] : MinimalJsonForm (Option α) where
  depth_toJson_le {manner j o} h := by
    cases o with
    | none => exact Nat.zero_le _
    | some a =>
      by_cases null : j = .null
      · subst null
        cases h
      · rw [as?_option null] at h
        obtain ⟨a', read, same⟩ := Option.map_eq_some_iff.1 h
        rw [← Option.some.inj same]
        exact depth_toJson_le (a := a') read

theorem depth_toJson_option_le {n : Nat} (h : ∀ a : α, (toJson a).depth ≤ n) (o : Option α) :
    (toJson o).depth ≤ n := by
  cases o with
  | none => exact Nat.zero_le n
  | some a => exact h a

/-- A list is nested one deeper than its items. -/
theorem depth_toJson_list_le {n : Nat} (h : ∀ a : α, (toJson a).depth ≤ n) (l : List α) :
    (toJson l).depth ≤ n + 1 := by
  refine Json.depth_arr_le_iff.2 ⟨Nat.zero_lt_succ n, fun j hj => ?_⟩
  obtain ⟨a, -, rfl⟩ := List.mem_map.1 hj
  exact Nat.lt_succ_of_le (h a)

instance [LawfulJsonForm α] : LawfulJsonForm (List α) where
  isExact_toJson l := .arr fun j hj => by
    obtain ⟨a, -, rfl⟩ := List.mem_map.1 hj
    exact isExact_toJson a
  as?_toJson manner l := by
    show (l.map toJson).mapM (Json.as? α manner) = some l
    rw [List.mapM_map, Json.mapM_eq_some_map (g := id), List.map_id]
    exact fun a _ => as?_toJson manner a

instance [MinimalJsonForm α] : MinimalJsonForm (List α) where
  depth_toJson_le {manner j l} h := by
    cases j with
    | arr items =>
      refine Json.depth_arr_le_iff.2 ⟨Nat.zero_lt_succ _, fun j hj => ?_⟩
      obtain ⟨a, ha, rfl⟩ := List.mem_map.1 hj
      obtain ⟨j', hj', read⟩ := Json.exists_of_mem_mapM h ha
      exact Nat.lt_of_le_of_lt (depth_toJson_le read) (Json.depth_lt_of_mem_arr hj')
    | _ => cases h

end Parts

/-! ### Sorted collections -/

instance {α κ : Type} [Ord κ] [Std.TransOrd κ] {key : α → κ} [JsonForm α] [LawfulJsonForm α] :
    LawfulJsonForm (SortedBy key) where
  isExact_toJson s := isExact_toJson s.toList
  as?_toJson manner s := by
    have read : ((toJson s.toList).as? (List α) manner).map SortedBy.ofList = some s := by
      rw [as?_toJson, Option.map_some, SortedBy.ofList_toList]
    exact read

instance {α : Type} [Ord α] [Std.TransOrd α] [Std.LawfulEqOrd α] [JsonForm α] [MinimalJsonForm α] :
    MinimalJsonForm (SortedSet α) where
  depth_toJson_le {manner j s} h := by
    obtain ⟨l, read, rfl⟩ := Option.map_eq_some_iff.1 h
    refine Nat.le_trans (Json.depth_arr_le_iff.2 ⟨Nat.zero_lt_succ _, fun j' hj' => ?_⟩)
      (depth_toJson_le (a := l) read)
    obtain ⟨a, ha, rfl⟩ := List.mem_map.1 hj'
    have member : a ∈ l := SortedSet.mem_ofList.1 ha
    exact Json.depth_lt_of_mem_arr (List.mem_map_of_mem member)

/-! ### Records -/

namespace Json

variable {members : List (String × Json)} {manner : Manner}

theorem valuesAt_cons_self (key : String) (j : Json) (members : List (String × Json)) :
    valuesAt key ((key, j) :: members) = j :: valuesAt key members := by
  simp [valuesAt]

theorem valuesAt_cons_of_ne {key k : String} (h : k ≠ key) (j : Json)
    (members : List (String × Json)) :
    valuesAt key ((k, j) :: members) = valuesAt key members := by
  simp [valuesAt, h]

theorem valuesAt_of_not_mem {key : String} (h : key ∉ members.map Prod.fst) :
    valuesAt key members = [] := by
  rw [valuesAt, List.map_eq_nil_iff, List.filter_eq_nil_iff]
  intro m hm same
  exact h (beq_iff_eq.1 same ▸ List.mem_map_of_mem hm)

/-- Under a key that is given once its member is found. -/
theorem valuesAt_of_nodup (nodup : (members.map Prod.fst).Nodup) {m : String × Json}
    (h : m ∈ members) : valuesAt m.1 members = [m.2] := by
  induction members with
  | nil => cases h
  | cons m' members ih =>
    obtain ⟨new, later⟩ := List.nodup_cons.1 nodup
    rcases List.mem_cons.1 h with rfl | h
    · rw [valuesAt_cons_self, valuesAt_of_not_mem new]
    · have other : m'.1 ≠ m.1 := fun same => new (same ▸ List.mem_map_of_mem h)
      rw [valuesAt_cons_of_ne other, ih later h]

/-- A record is read from an object that gives exactly its keys. -/
theorem record?_obj (manner : Manner) (members : List (String × Json)) (keys : List String)
    (same : members.map Prod.fst = keys) (nodup : keys.Nodup) :
    (obj members).record? manner keys = some (members.map fun m => .given manner m.2) := by
  subst same
  rw [record?, List.mapM_map]
  exact mapM_eq_some_map fun m hm => by rw [Function.comp_apply, valuesAt_of_nodup nodup hm]

/-- A member that has to be given is read back. -/
theorem Member.required_toJson {α : Type} [JsonForm α] [LawfulJsonForm α] (manner : Manner)
    (a : α) : (Member.given manner (toJson a)).required α = some a := as?_toJson manner a

/-- A member that need not be given is read back if it is. -/
theorem Member.orElse_toJson {α : Type} [JsonForm α] [LawfulJsonForm α] (manner : Manner)
    (default a : α) : (Member.given manner (toJson a)).orElse default = some a :=
  as?_toJson manner a

/-- A tag is found in front of the members of a record. -/
theorem tagged?_obj (manner : Manner) (names : List String) {key : String} (tag : String)
    (members : List (String × Json)) (keys : List String) (same : members.map Prod.fst = keys) (h : key ∉ keys) :
    (obj ((key, .str tag) :: members)).tagged? manner names key = some (tag, .obj members) := by
  subst same
  have rest : ((key, Json.str tag) :: members).filter (fun m => m.1 != key) = members := by
    rw [List.filter_cons_of_neg (by simp)]
    refine List.filter_eq_self.2 fun m hm => bne_iff_ne.2 fun same => ?_
    exact h (same ▸ List.mem_map_of_mem hm)
  rw [tagged?, valuesAt_cons_self, valuesAt_of_not_mem h, rest]
  rfl

/-- A member of a record is nested less deeply than the record. -/
theorem depth_lt_of_record? {j : Json} {keys : List String} {found : List Member}
    (h : j.record? manner keys = some found) {manner' : Manner} {j' : Json}
    (given : .given manner' j' ∈ found) : j'.depth < j.depth := by
  cases j with
  | obj members =>
    obtain ⟨key, -, single⟩ := exists_of_mem_mapM h given
    split at single
    · cases single
    · next values =>
      cases single
      have member : j' ∈ valuesAt key members := by
        rw [values]
        exact List.mem_singleton_self j'
      obtain ⟨m, hm, rfl⟩ := List.mem_map.1 member
      exact depth_lt_of_mem_obj (List.mem_filter.1 hm).1
    · cases single
  | arr items =>
    rw [record?] at h
    split at h
    · cases h
      rcases List.mem_append.1 given with item | missing
      · obtain ⟨j, hj, same⟩ := List.mem_map.1 item
        cases same
        exact depth_lt_of_mem_arr hj
      · cases List.eq_of_mem_replicate missing
    · cases h
  | _ => cases h

/-- What is read from a member of a record is nested less deeply than the record. -/
theorem depth_lt_of_required {α : Type} [JsonForm α] [MinimalJsonForm α] {j : Json}
    {keys : List String} {found : List Member} (record : j.record? manner keys = some found)
    {m : Member} (hm : m ∈ found) {a : α} (h : m.required α = some a) :
    (toJson a).depth < j.depth := by
  cases m with
  | given manner' j' => exact Nat.lt_of_le_of_lt (depth_toJson_le h) (depth_lt_of_record? record hm)
  | absent => cases h
  | beyond => cases h

theorem depth_lt_of_optional {α : Type} [JsonForm α] [MinimalJsonForm α] {j : Json}
    {keys : List String} {found : List Member} (record : j.record? manner keys = some found)
    {m : Member} (hm : m ∈ found) {o : Option α} (h : m.optional α = some o) :
    (toJson o).depth < j.depth := by
  cases m with
  | given manner' j' => exact Nat.lt_of_le_of_lt (depth_toJson_le h) (depth_lt_of_record? record hm)
  | absent =>
    cases h
    cases j with
    | obj members => exact Nat.zero_lt_succ _
    | arr items => exact Nat.zero_lt_succ _
    | _ => cases record
  | beyond => cases h

/-- A record is nested no deeper without its tag. -/
theorem depth_le_of_tagged? {j rest : Json} {names : List String} {key tag : String}
    (h : j.tagged? manner names key = some (tag, rest)) : rest.depth ≤ j.depth := by
  cases j with
  | obj members =>
    rw [tagged?] at h
    split at h
    · obtain ⟨_, -, same⟩ := Option.map_eq_some_iff.1 h
      cases same
      refine depth_obj_le_iff.2 ⟨Nat.zero_lt_succ _, fun m hm => ?_⟩
      exact depth_lt_of_mem_obj (List.mem_filter.1 hm).1
    · cases h
  | arr items =>
    cases items with
    | nil => cases h
    | cons first items =>
      obtain ⟨_, -, same⟩ := Option.map_eq_some_iff.1 h
      cases same
      refine depth_arr_le_iff.2 ⟨Nat.zero_lt_succ _, fun j hj => ?_⟩
      exact depth_lt_of_mem_arr (List.mem_cons_of_mem first hj)
  | _ => cases h

end Json

end Mediatheque

import Mediatheque.Predicate.Form
import Mediatheque.Proofs.Json.Form
import Mediatheque.Proofs.Predicate.Construction

/-!
# Predicates are read back

A predicate is read back from its JSON form (`Predicate.ofForm?_form`), and whatever form it was
read from, its own is nested no deeper (`Predicate.depth_form_le`): a node takes two levels, for
its record and for the array of its operands, and a leaf at most three. So what is built by few
joins inside each other is stored in few levels (`Predicate.IsMadeIn.depth_form_le`).
-/

namespace Mediatheque

open Json

/-! ### Values -/

namespace Value

theorem isExact_content (v : Value) : v.content.IsExact := by
  cases v with
  | null => exact .null
  | bool b => exact isExact_toJson b
  | int i => exact isExact_toJson i
  | date d => exact isExact_toJson d
  | text s => exact isExact_toJson s
  | uuid u => exact isExact_toJson u

/-- A value is read back from its content. -/
theorem ofContent?_content (manner : Manner) (v : Value) :
    ofContent? manner v.kind (if v.isNull then none else some v.content) = some v := by
  cases v with
  | null => rfl
  | _ =>
    simp only [ofContent?, kind, content, isNull, beq_iff_eq, reduceCtorEq, ↓reduceIte,
      Option.bind_some, as?_toJson, Option.map_some]

/-- The kind and the content of a value are found under their keys. -/
theorem adjacent?_toJson (manner : Manner) (names : List String) (v : Value) :
    (toJson v).adjacent? manner names "type" "value" =
      some (Named.name v.kind, if v.isNull then none else some v.content) := by
  cases v <;> rfl

end Value

instance : LawfulJsonForm Value where
  isExact_toJson v := by
    refine .obj (List.forall_mem_cons.2 ⟨.str _, fun m hm => ?_⟩)
    split at hm
    · cases hm
    · rw [List.mem_singleton.1 hm]
      exact v.isExact_content
  as?_toJson manner v := by
    have read := v.adjacent?_toJson manner ((Named.all : List ValueKind).map Named.name)
    have value := v.ofContent?_content manner
    simp only [as?, JsonForm.ofJson?, Option.bind_eq_bind, read, Option.bind_some,
      Named.ofName?_name, value]

/-- The form of a value is an object without containers in it. -/
theorem Value.depth_toJson (v : Value) : (toJson v).depth = 1 := by
  cases v <;> rfl

instance : MinimalJsonForm Value where
  depth_toJson_le {manner j v} h := by
    rw [v.depth_toJson]
    cases j with
    | arr items => exact Nat.succ_le_succ (Nat.zero_le _)
    | obj members => exact Nat.succ_le_succ (Nat.zero_le _)
    | _ => cases h

instance : ContentJsonForm Value where
  toJson_ne_null _ := nofun

/-! ### Reading back -/

namespace Predicate

/-- The tag of a node with operands. -/
def Connective.tag : Connective → String
  | .conjunction => "and"
  | .disjunction => "or"

theorem forms_eq_map (l : List Predicate) : forms l = l.map form := by
  induction l with
  | nil => rfl
  | cons p l ih => rw [forms, ih, List.map_cons]

/-- The form of a node with operands. -/
theorem form_node (c : Connective) (l : List Predicate) :
    form (c.node l) = .obj [("op", .str c.tag), ("exprs", .arr (l.map form))] := by
  cases c with
  | conjunction => rw [Connective.node, form, forms_eq_map]; rfl
  | disjunction => rw [Connective.node, form, forms_eq_map]; rfl

theorem ofForms?_eq_mapM (items : List Json) : ofForms? items = items.mapM (ofForm? .held) := by
  induction items with
  | nil => rfl
  | cons j items ih =>
    rw [ofForms?, ih, List.mapM_cons]
    simp only [Option.map_eq_bind]
    rfl

/-- A node without operands is read from the members beside its tag, whatever operands there
are. -/
theorem node?_obj {tag : String} (leaf : tag ≠ "and" ∧ tag ≠ "or")
    {members : List (String × Json)} (keys : List String) (same : members.map Prod.fst = keys)
    (new : "op" ∉ keys) (manner : Manner) (operands : Option (List Predicate)) :
    node? manner (.obj (("op", .str tag) :: members)) operands = leaf? tag (.obj members) := by
  rw [node?, tagged?_obj manner kinds tag members keys same new]
  simp only [Option.bind_eq_bind, Option.bind_some]
  split
  · exact absurd rfl leaf.1
  · exact absurd rfl leaf.2
  · rfl

/-- A node without operands is read back, whatever operands there are. -/
theorem node?_form {p : Predicate} (h : p.isLeaf ∨ ∃ b, p = .always b) (manner : Manner)
    (operands : Option (List Predicate)) : node? manner p.form operands = some p := by
  cases p with
  | equals f v =>
    have record := record?_obj .held [("field", toJson f), ("value", toJson v)] ["field", "value"]
      rfl (by decide)
    rw [form, node?_obj (by decide) ["field", "value"] rfl (by decide), leaf?]
    simp only [List.map_cons, List.map_nil] at record
    simp only [record, Member.required, as?_toJson, Option.bind_eq_bind, Option.bind_some]
    rfl
  | oneOf f values =>
    have record := record?_obj .held [("field", toJson f), ("values", toJson values)]
      ["field", "values"] rfl (by decide)
    rw [form, node?_obj (by decide) ["field", "values"] rfl (by decide), leaf?]
    simp only [List.map_cons, List.map_nil] at record
    simp only [record, Member.required, as?_toJson, Option.bind_eq_bind, Option.bind_some]
    rfl
  | within f lower upper lowerClosed upperClosed =>
    have record := record?_obj .held [("field", toJson f), ("lower", toJson lower),
      ("upper", toJson upper), ("lower_inclusive", toJson lowerClosed),
      ("upper_inclusive", toJson upperClosed)]
      ["field", "lower", "upper", "lower_inclusive", "upper_inclusive"] rfl (by decide)
    rw [form, node?_obj (by decide)
      ["field", "lower", "upper", "lower_inclusive", "upper_inclusive"] rfl (by decide), leaf?]
    simp only [List.map_cons, List.map_nil] at record
    simp only [record, Member.required, Member.optional, as?_toJson, Option.bind_eq_bind,
      Option.bind_some]
    rfl
  | all l => rcases h with h | ⟨_, h⟩ <;> cases h
  | any l => rcases h with h | ⟨_, h⟩ <;> cases h
  | always b =>
    have record := record?_obj .held [("value", toJson b)] ["value"] rfl (by decide)
    rw [form, node?_obj (by decide) ["value"] rfl (by decide), leaf?]
    simp only [List.map_cons, List.map_nil] at record
    simp only [record, Member.required, as?_toJson, Option.bind_eq_bind, Option.bind_some]
    rfl

theorem form_eq_obj (p : Predicate) : ∃ members, p.form = .obj members := by
  cases p <;> exact ⟨_, rfl⟩

theorem ofForms?_map_form {l : List Predicate} (h : ∀ p ∈ l, ofForm? .held p.form = some p) :
    ofForms? (l.map form) = some l := by
  induction l with
  | nil => rfl
  | cons p l ih =>
    obtain ⟨first, later⟩ := List.forall_mem_cons.1 h
    rw [List.map_cons, ofForms?, first, ih later]
    rfl

/-- A node with operands is read back with those that its record holds. -/
theorem node?_form_node (c : Connective) (l : List Predicate) (manner : Manner) :
    node? manner (c.node l).form (some l) = some (c.node l) := by
  have record := record?_obj .held [("exprs", .arr (l.map form))] ["exprs"] rfl (by decide)
  have tagged := tagged?_obj manner kinds c.tag [("exprs", .arr (l.map form))] ["exprs"] rfl
    (by decide : "op" ∉ ["exprs"])
  rw [form_node, node?, tagged]
  simp only [List.map_cons, List.map_nil] at record
  cases c with
  | conjunction =>
    simp only [Connective.tag, record, Option.bind_eq_bind, Option.bind_some]
    rfl
  | disjunction =>
    simp only [Connective.tag, record, Option.bind_eq_bind, Option.bind_some]
    rfl

/-- A node without operands is read back from its form. -/
theorem ofForm?_form_leaf {p : Predicate} (h : p.isLeaf ∨ ∃ b, p = .always b) (manner : Manner) :
    ofForm? manner p.form = some p := by
  obtain ⟨members, object⟩ := p.form_eq_obj
  rw [object, ofForm?, ← object, node?_form h]

/-- A predicate is read back from its form. -/
theorem ofForm?_form (p : Predicate) (manner : Manner) : ofForm? manner p.form = some p := by
  induction p using Connective.tree_induction generalizing manner with
  | leaf p h => exact ofForm?_form_leaf (.inl h) manner
  | constant b => exact ofForm?_form_leaf (.inr ⟨b, rfl⟩) manner
  | node c l ih =>
    have operands : operandsAmong? [("op", .str c.tag), ("exprs", .arr (l.map form))] = some l := by
      rw [← ofForms?_map_form fun p hp => ih p hp .held]
      simp [operandsAmong?]
    rw [form_node, ofForm?, operands, ← form_node, node?_form_node]

theorem isExact_form (p : Predicate) : p.form.IsExact := by
  induction p using Connective.tree_induction with
  | leaf p h =>
    cases p with
    | equals f v => exact .obj (by simp [IsExact.str, isExact_toJson])
    | oneOf f values => exact .obj (by simp [IsExact.str, isExact_toJson])
    | within f lower upper lowerClosed upperClosed =>
      exact .obj (by simp [IsExact.str, isExact_toJson])
    | all l => cases h
    | any l => cases h
    | always b => cases h
  | constant b => exact .obj (by simp [IsExact.str, isExact_toJson])
  | node c l ih =>
    rw [form_node]
    have items : ∀ j ∈ l.map form, j.IsExact := List.forall_mem_map.2 ih
    exact .obj (by simp [IsExact.str, IsExact.arr items])

/-! ### Depth -/

/-- A node is nested two deeper than its operands: they are in an array in an object. -/
theorem depth_form_node_le_iff {c : Connective} {l : List Predicate} {n : Nat} :
    (c.node l).form.depth ≤ n ↔ 2 ≤ n ∧ ∀ p ∈ l, p.form.depth + 2 ≤ n := by
  rw [form_node, depth_obj_le_iff]
  constructor
  · rintro ⟨-, h⟩
    have exprs : (Json.arr (l.map form)).depth < n :=
      h ("exprs", .arr (l.map form)) (List.mem_cons_of_mem _ List.mem_cons_self)
    obtain ⟨room, operands⟩ := depth_arr_le_iff.1 (Nat.le_sub_one_of_lt exprs)
    refine ⟨by omega, fun p hp => ?_⟩
    have operand := operands _ (List.mem_map_of_mem hp)
    omega
  · rintro ⟨room, h⟩
    have exprs : (Json.arr (l.map form)).depth ≤ n - 1 := by
      refine depth_arr_le_iff.2 ⟨by omega, List.forall_mem_map.2 fun p hp => ?_⟩
      have operand := h p hp
      omega
    have tag : (Json.str c.tag).depth < n := Nat.lt_of_lt_of_le Nat.zero_lt_two room
    refine ⟨by omega, List.forall_mem_cons.2 ⟨tag, List.forall_mem_singleton.2 ?_⟩⟩
    show (Json.arr (l.map form)).depth < n
    omega

/-- A node without operands is nested no deeper than what it is read from. -/
theorem depth_form_le_of_leaf? {tag : String} {rest : Json} {p : Predicate}
    (h : leaf? tag rest = some p) : p.form.depth ≤ rest.depth := by
  unfold leaf? at h
  split at h
  · obtain ⟨found, record, h⟩ := Option.bind_eq_some_iff.1 h
    split at h
    · obtain ⟨f, hf, h⟩ := Option.bind_eq_some_iff.1 h
      obtain ⟨v, hv, h⟩ := Option.bind_eq_some_iff.1 h
      cases h
      have field := depth_lt_of_required record (by simp) hf
      have value := depth_lt_of_required record (by simp) hv
      have inside := Nat.zero_lt_of_lt field
      exact depth_obj_le_iff.2 ⟨inside, List.forall_mem_cons.2 ⟨inside,
        List.forall_mem_cons.2 ⟨field, List.forall_mem_singleton.2 value⟩⟩⟩
    · cases h
  · obtain ⟨found, record, h⟩ := Option.bind_eq_some_iff.1 h
    split at h
    · obtain ⟨f, hf, h⟩ := Option.bind_eq_some_iff.1 h
      obtain ⟨values, hvalues, h⟩ := Option.bind_eq_some_iff.1 h
      cases h
      have field := depth_lt_of_required record (by simp) hf
      have choices := depth_lt_of_required record (by simp) hvalues
      have inside := Nat.zero_lt_of_lt field
      exact depth_obj_le_iff.2 ⟨inside, List.forall_mem_cons.2 ⟨inside,
        List.forall_mem_cons.2 ⟨field, List.forall_mem_singleton.2 choices⟩⟩⟩
    · cases h
  · obtain ⟨found, record, h⟩ := Option.bind_eq_some_iff.1 h
    split at h
    · obtain ⟨f, hf, h⟩ := Option.bind_eq_some_iff.1 h
      obtain ⟨lower, hlower, h⟩ := Option.bind_eq_some_iff.1 h
      obtain ⟨upper, hupper, h⟩ := Option.bind_eq_some_iff.1 h
      obtain ⟨lowerClosed, hlowerClosed, h⟩ := Option.bind_eq_some_iff.1 h
      obtain ⟨upperClosed, hupperClosed, h⟩ := Option.bind_eq_some_iff.1 h
      cases h
      have field := depth_lt_of_required record (by simp) hf
      have low := depth_lt_of_optional record (by simp) hlower
      have high := depth_lt_of_optional record (by simp) hupper
      have lowEnd := depth_lt_of_required record (by simp) hlowerClosed
      have highEnd := depth_lt_of_required record (by simp) hupperClosed
      have inside := Nat.zero_lt_of_lt field
      exact depth_obj_le_iff.2 ⟨inside, List.forall_mem_cons.2 ⟨inside,
        List.forall_mem_cons.2 ⟨field, List.forall_mem_cons.2 ⟨low, List.forall_mem_cons.2 ⟨high,
          List.forall_mem_cons.2 ⟨lowEnd, List.forall_mem_singleton.2 highEnd⟩⟩⟩⟩⟩⟩
    · cases h
  · obtain ⟨found, record, h⟩ := Option.bind_eq_some_iff.1 h
    split at h
    · obtain ⟨b, hb, h⟩ := Option.bind_eq_some_iff.1 h
      cases h
      have value := depth_lt_of_required record (by simp) hb
      have inside := Nat.zero_lt_of_lt value
      exact depth_obj_le_iff.2
        ⟨inside, List.forall_mem_cons.2 ⟨inside, List.forall_mem_singleton.2 value⟩⟩
    · cases h
  · cases h

/-- What a node is read from: the members beside its tag, or its tag and its operands. -/
theorem node?_cases {manner : Manner} {j : Json} {operands : Option (List Predicate)}
    {p : Predicate} (h : node? manner j operands = some p) :
    (∃ tag rest, rest.depth ≤ j.depth ∧ leaf? tag rest = some p) ∨
      ∃ c l, operands = some l ∧ p = Connective.node c l := by
  obtain ⟨⟨tag, rest⟩, tagged, h⟩ := Option.bind_eq_some_iff.1 h
  have shallow := depth_le_of_tagged? tagged
  dsimp only at h
  split at h
  · obtain ⟨found, -, h⟩ := Option.bind_eq_some_iff.1 h
    split at h
    · obtain ⟨l, hl, h⟩ := Option.bind_eq_some_iff.1 h
      rw [if_pos rfl] at h
      cases h
      exact .inr ⟨.conjunction, l, hl, rfl⟩
    · cases h
  · obtain ⟨found, -, h⟩ := Option.bind_eq_some_iff.1 h
    split at h
    · obtain ⟨l, hl, h⟩ := Option.bind_eq_some_iff.1 h
      rw [if_neg (by decide)] at h
      cases h
      exact .inr ⟨.disjunction, l, hl, rfl⟩
    · cases h
  · exact .inl ⟨_, rest, shallow, h⟩

theorem exists_of_operandsAmong? {members : List (String × Json)} {l : List Predicate}
    (h : operandsAmong? members = some l) :
    ∃ items, ("exprs", .arr items) ∈ members ∧ ofForms? items = some l := by
  induction members with
  | nil => cases h
  | cons m members ih =>
    have later : operandsAmong? members = some l →
        ∃ items, ("exprs", .arr items) ∈ m :: members ∧ ofForms? items = some l := by
      intro h
      obtain ⟨items, member, read⟩ := ih h
      exact ⟨items, List.mem_cons_of_mem m member, read⟩
    obtain ⟨key, j⟩ := m
    cases j with
    | arr items =>
      rw [operandsAmong?] at h
      split at h
      · next found => exact ⟨items, found ▸ List.mem_cons_self, h⟩
      · exact later h
    | _ => exact later h

/-- The operands of a node are read from an array in what the node is read from. -/
theorem ofForm?_cases {manner : Manner} {j : Json} {p : Predicate} (h : ofForm? manner j = some p) :
    ∃ operands, node? manner j operands = some p ∧
      ∀ l, operands = some l → ∃ items, ofForms? items = some l ∧ (Json.arr items).depth < j.depth := by
  unfold ofForm? at h
  split at h
  · next members =>
    refine ⟨_, h, fun l hl => ?_⟩
    obtain ⟨items, member, read⟩ := exists_of_operandsAmong? hl
    exact ⟨items, read, depth_lt_of_mem_obj member⟩
  · next tag items rest =>
    refine ⟨_, h, fun l hl => ⟨items, hl, depth_lt_of_mem_arr ?_⟩⟩
    exact List.mem_cons_of_mem tag List.mem_cons_self
  · exact ⟨none, h, nofun⟩

/-- A predicate is nested no deeper than what it is read from. -/
theorem depth_form_le {manner : Manner} {j : Json} {p : Predicate} (h : ofForm? manner j = some p) :
    p.form.depth ≤ j.depth := by
  obtain ⟨operands, node, inside⟩ := ofForm?_cases h
  rcases node?_cases node with ⟨tag, rest, shallow, leaf⟩ | ⟨c, l, some, rfl⟩
  · exact Nat.le_trans (depth_form_le_of_leaf? leaf) shallow
  · obtain ⟨items, read, deeper⟩ := inside l some
    rw [ofForms?_eq_mapM] at read
    have array : 0 < (Json.arr items).depth := Nat.zero_lt_succ _
    refine depth_form_node_le_iff.2 ⟨by omega, fun p hp => ?_⟩
    obtain ⟨j', hj', operand⟩ := exists_of_mem_mapM read hp
    have smaller := depth_lt_of_mem_arr hj'
    have shallow := depth_form_le operand
    omega
termination_by j.depth

end Predicate

instance : LawfulJsonForm Predicate where
  isExact_toJson p := p.isExact_form
  as?_toJson manner p := p.ofForm?_form manner

instance : MinimalJsonForm Predicate where
  depth_toJson_le h := Predicate.depth_form_le h

namespace Predicate

/-! ### Depth of joined predicates -/

theorem depth_toJson_bound (bound : Option Value) : (toJson bound).depth ≤ 1 := by
  cases bound with
  | none => exact Nat.zero_le 1
  | some v => exact Nat.le_of_eq v.depth_toJson

/-- A leaf holds values, at most in a list. -/
theorem depth_form_le_of_isLeaf {p : Predicate} (h : p.isLeaf) : p.form.depth ≤ 3 := by
  cases p with
  | equals f v =>
    have value : (toJson v).depth < 3 := by
      rw [v.depth_toJson]
      decide
    exact depth_obj_le_iff.2 ⟨by decide, List.forall_mem_cons.2 ⟨by decide,
      List.forall_mem_cons.2 ⟨Nat.zero_lt_succ 2, List.forall_mem_singleton.2 value⟩⟩⟩
  | oneOf f values =>
    have choices : (toJson values).depth ≤ 2 := by
      refine depth_arr_le_iff.2 ⟨by decide, List.forall_mem_map.2 fun v _ => ?_⟩
      rw [v.depth_toJson]
      decide
    exact depth_obj_le_iff.2 ⟨by decide, List.forall_mem_cons.2 ⟨by decide,
      List.forall_mem_cons.2 ⟨Nat.zero_lt_succ 2, List.forall_mem_singleton.2
        (Nat.lt_succ_of_le choices)⟩⟩⟩
  | within f lower upper lowerClosed upperClosed =>
    have low : (toJson lower).depth < 3 := Nat.lt_of_le_of_lt (depth_toJson_bound lower) (by decide)
    have high : (toJson upper).depth < 3 := Nat.lt_of_le_of_lt (depth_toJson_bound upper) (by decide)
    exact depth_obj_le_iff.2 ⟨by decide, List.forall_mem_cons.2 ⟨by decide,
      List.forall_mem_cons.2 ⟨Nat.zero_lt_succ 2, List.forall_mem_cons.2 ⟨low,
        List.forall_mem_cons.2 ⟨high, List.forall_mem_cons.2 ⟨Nat.zero_lt_succ 2,
          List.forall_mem_singleton.2 (Nat.zero_lt_succ 2)⟩⟩⟩⟩⟩⟩
  | all l => cases h
  | any l => cases h
  | always b => cases h

/-- Joining adds at most a node. -/
theorem depth_form_join_le (c : Connective) {l : List Predicate} {n : Nat}
    (h : ∀ p ∈ l, p.form.depth ≤ n) : (c.join l).form.depth ≤ n + 2 := by
  have origin : ∀ {p : Predicate}, c.IsFrom l p → p.form.depth ≤ n := by
    rintro p (⟨hp, -⟩ | ⟨inner, hinner, hp⟩)
    · exact h p hp
    · have := (depth_form_node_le_iff.1 (h _ hinner)).2 p hp
      omega
  rcases c.join_cases l with ⟨b, hb⟩ | ⟨hl, hone | ⟨-, hnode⟩⟩
  · rw [hb]
    exact Nat.le_add_left 1 (n + 1)
  · have single := origin (Connective.isFrom_of_mem_parts hl (hone ▸ List.mem_cons_self))
    exact Nat.le_add_right_of_le single
  · rw [hnode, depth_form_node_le_iff]
    refine ⟨Nat.le_add_left 2 n, fun p hp => ?_⟩
    exact Nat.add_le_add_right (origin (Connective.isFrom_of_mem_parts hl hp)) 2

/-- What is built from leaves is nested as deeply as its joins allow. -/
theorem IsMadeIn.depth_form_le {kind : Predicate → Prop} {n : Nat} {p : Predicate}
    (h : p.IsMadeIn kind n) : p.form.depth ≤ 2 * n + 3 := by
  induction h with
  | always n b => exact Nat.le_add_left 1 (2 * n + 2)
  | leaf n h _ => exact Nat.le_trans (depth_form_le_of_isLeaf h) (Nat.le_add_left 3 (2 * n))
  | join c _ ih => exact depth_form_join_le c ih

end Predicate

end Mediatheque

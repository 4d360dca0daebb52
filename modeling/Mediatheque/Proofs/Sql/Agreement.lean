import Mediatheque.Proofs.Sql.Truth

/-!
# The condition for a predicate

The condition for a predicate is true of the row of a record if and only if the predicate holds of
the record (`agrees_ofPredicate`), and its operands have types that go together. Where the
evaluation says no because a record does not know something, the condition may be unknown, and
this never makes a difference to what is true: there is no negation in a condition.
-/

namespace Mediatheque

open Std

/-! ### The predicates that are meant -/

namespace Predicate

mutual

/-- Every conjunction and every disjunction has an operand. -/
def hasOperands : Predicate → Bool
  | .all operands => !operands.isEmpty && haveOperands operands
  | .any operands => !operands.isEmpty && haveOperands operands
  | _ => true

/-- The same of several predicates. -/
def haveOperands : List Predicate → Bool
  | [] => true
  | p :: rest => hasOperands p && haveOperands rest

end

mutual

/-- Every value that a field is compared with is missing, or is of the type of the field. -/
def isWellKinded : Predicate → Bool
  | .equals f v => f.fits v
  | .oneOf f values => values.toList.all f.fits
  | .within f lower upper _ _ => lower.all f.fits && upper.all f.fits
  | .all operands => areWellKinded operands
  | .any operands => areWellKinded operands
  | .always _ => true

/-- The same of several predicates. -/
def areWellKinded : List Predicate → Bool
  | [] => true
  | p :: rest => isWellKinded p && areWellKinded rest

end

end Predicate

namespace Sql

/-- A result that a function was applied to is the function of a result. -/
theorem map_eq_ok_iff {ε α β : Type} {x : Except ε α} {f : α → β} {b : β} :
    x.map f = .ok b ↔ ∃ a, x = .ok a ∧ f a = b := by
  cases x with
  | error e => exact ⟨fun h => (nomatch h), fun ⟨_, h, _⟩ => (nomatch h)⟩
  | ok a =>
    constructor
    · intro h
      exact ⟨a, rfl, Except.ok.inj h⟩
    · rintro ⟨_, h, rfl⟩
      cases h
      rfl

/-! ### Parameters -/

namespace Parameter

variable {t : DataType}

@[simp] theorem ofValue_value (a : t.Carrier) : ofValue (t.value a) = .ok (.scalar t a) := by
  cases t <;> rfl

/-- If an array can be made of values, they are what its elements stand for. -/
theorem eq_map_of_contents {values : List Value} {elements : List t.Carrier}
    (h : contents t values = .ok elements) : values = elements.map t.value := by
  induction values generalizing elements with
  | nil => cases h; rfl
  | cons v rest ih =>
    rw [contents] at h
    cases hv : t.content? v with
    | none => rw [hv] at h; cases h
    | some a =>
      rw [hv] at h
      obtain ⟨others, hrest, rfl⟩ := map_eq_ok_iff.1 h
      rw [List.map_cons, DataType.value_of_content? hv, ih hrest]

/-- The array that is made of values of one type. -/
theorem eq_array_of_ofValues {f : Field} {least : Value} {others : List Value} {p : Parameter}
    (hfits : f.fits least) (h : ofValues least others = .ok p) :
    ∃ elements : List f.Content, p = .array f.dataType elements ∧
      least :: others = elements.map f.dataType.value := by
  rcases Field.eq_null_or_value_of_fits hfits with rfl | ⟨a, rfl⟩
  · cases h
  · rw [ofValues, DataType.dataType?_value] at h
    obtain ⟨elements, helements, rfl⟩ := map_eq_ok_iff.1 h
    exact ⟨elements, rfl, eq_map_of_contents helements⟩

end Parameter

/-! ### What a record holds and what its row has -/

namespace Row.Represents

variable {row : Row} {r : MediaRecord}

/-- A field of single values: the column has what the record holds, and is unknown otherwise. -/
theorem of_single (h : row.Represents r) {f : Field} (hf : f.isSetValued = false) :
    ∃ o : Option f.Content, row f = .single f.dataType o ∧
      r.fieldValue f = .scalar (o.elim .null f.dataType.value) := by
  cases hv : r.fieldValue f with
  | set s => exact absurd ((f.isSetValued_iff r).2 ⟨s, hv⟩) (by rw [hf]; exact Bool.false_ne_true)
  | scalar v =>
    refine ⟨f.dataType.content? v, h.single f v hv, ?_⟩
    rcases Field.eq_null_or_value_of_fits (Field.fits_of_fieldValue hv) with rfl | ⟨a, rfl⟩
    · rw [DataType.content?_null]
      rfl
    · rw [DataType.content?_value]
      rfl

/-- A field of sets: the elements of the array are what the record holds. -/
theorem of_array (h : row.Represents r) {f : Field} (hf : f.isSetValued) :
    ∃ (elements : Option (List f.Content)) (s : SortedSet Value),
      row f = .array f.dataType elements ∧ r.fieldValue f = .set s ∧
        ∀ v, v ∈ s ↔ ∃ a ∈ elements.getD [], v = f.dataType.value a := by
  obtain ⟨s, hs⟩ := (f.isSetValued_iff r).1 hf
  obtain ⟨elements, hrow, hmem⟩ := h.array f s hs
  refine ⟨elements, s, hrow, hs, fun v => ⟨fun hv => ?_, ?_⟩⟩
  · obtain ⟨a, rfl⟩ := Field.exists_value_of_fieldValue hs hv
    exact ⟨a, (hmem a).2 hv, rfl⟩
  · rintro ⟨a, ha, rfl⟩
    exact (hmem a).1 ha

end Row.Represents

/-! ### Leaves -/

namespace Condition

variable {row : Row} {r : MediaRecord} {f : Field} {c : Condition}

/-- The condition has a meaning, and is true of the row just if it should be. -/
def Agrees (row : Row) (c : Condition) (should : Bool) : Prop :=
  c.isTyped none ∧ (c.truth row none = .yes ↔ should)

theorem ofEquals_null (f : Field) :
    ofEquals f .null = .ok (if f.isSetValued then .isEmpty (.column (.field f))
      else .isNull (.column (.field f))) := rfl

theorem ofEquals_value (f : Field) {t : DataType} (a : t.Carrier) :
    ofEquals f (t.value a) =
      .ok (if f.isSetValued then .isAny (.parameter (.scalar t a)) (.column (.field f))
        else .compare (.column (.field f)) .eq (.parameter (.scalar t a))) := by
  rw [ofEquals, DataType.isNull_value, Parameter.ofValue_value]
  rfl

/-- A field of single values has a value, or has none. -/
theorem agrees_ofEquals_single (hrow : row.Represents r) (hf : f.isSetValued = false) {v : Value}
    (hfits : f.fits v) (hc : ofEquals f v = .ok c) : Agrees row c ((r.fieldValue f).equals v) := by
  obtain ⟨o, hdatum, hvalue⟩ := hrow.of_single hf
  rw [hvalue, FieldValue.equals]
  rcases Field.eq_null_or_value_of_fits hfits with rfl | ⟨a, rfl⟩
  · rw [ofEquals_null, hf] at hc
    cases hc
    refine ⟨rfl, ?_⟩
    simp only [Bool.false_eq_true, ↓reduceIte, truth, Operand.datum?, hdatum]
    cases o with
    | none => simp [Datum.isNull]
    | some a => simp [Datum.isNull, DataType.value_ne_null]
  · rw [ofEquals_value, hf] at hc
    cases hc
    constructor
    · simp [isTyped, Operand.type?, columnType, hf]
    · simp only [Bool.false_eq_true, ↓reduceIte, truth, Operand.datum?, hdatum, beq_iff_eq,
        Datum.compare_eq_eq_yes_iff]
      cases o with
      | none => simp [(DataType.value_ne_null a).symm]
      | some b => simp

/-- A field of sets has a value among its elements, or has no elements. -/
theorem agrees_ofEquals_set (hrow : row.Represents r) (hf : f.isSetValued) {v : Value}
    (hfits : f.fits v) (hc : ofEquals f v = .ok c) : Agrees row c ((r.fieldValue f).equals v) := by
  obtain ⟨elements, s, hdatum, hvalue, hmem⟩ := hrow.of_array hf
  rw [hvalue, FieldValue.equals]
  rcases Field.eq_null_or_value_of_fits hfits with rfl | ⟨a, rfl⟩
  · rw [ofEquals_null, hf] at hc
    cases hc
    constructor
    · simp [isTyped, Operand.type?, columnType, hf]
    · have empty : s.isEmpty ↔ elements.getD [] = [] := by
        rw [SortedBy.isEmpty_iff, List.eq_nil_iff_forall_not_mem]
        constructor
        · rintro rfl a ha
          exact SortedBy.not_mem_empty ((hmem _).2 ⟨a, ha, rfl⟩)
        · intro h
          refine SortedBy.ext_mem fun v => ⟨fun hv => ?_, fun hv => ?_⟩
          · obtain ⟨a, ha, -⟩ := (hmem v).1 hv
            exact absurd ha (h a)
          · exact absurd hv SortedBy.not_mem_empty
      simp [truth, Operand.datum?, hdatum, Datum.isEmpty, Value.isNull, empty]
  · rw [ofEquals_value, hf] at hc
    cases hc
    constructor
    · simp [isTyped, Operand.type?, columnType, hf]
    · simp only [↓reduceIte, truth, Operand.datum?, hdatum, Datum.isAny_eq_yes_iff,
        DataType.isNull_value, Bool.false_eq_true, SortedSet.contains_iff_mem, hmem,
        DataType.value_inj, Option.some.injEq]

/-- A field has a value just if the condition for it is true. -/
theorem agrees_ofEquals (hrow : row.Represents r) {v : Value} (hfits : f.fits v)
    (hc : ofEquals f v = .ok c) : Agrees row c ((r.fieldValue f).equals v) := by
  cases hf : f.isSetValued with
  | false => exact agrees_ofEquals_single hrow hf hfits hc
  | true => exact agrees_ofEquals_set hrow hf hfits hc

/-- A field of single values has one of the values, which are the elements of an array. -/
theorem agrees_isAny (hrow : row.Represents r) (hf : f.isSetValued = false)
    {values : SortedSet Value} {l : List f.Content}
    (mem : ∀ v, v ∈ values ↔ ∃ a ∈ l, f.dataType.value a = v) :
    Agrees row (.isAny (.column (.field f)) (.parameter (.array f.dataType l)))
      ((r.fieldValue f).oneOf values) := by
  obtain ⟨o, hdatum, hvalue⟩ := hrow.of_single hf
  constructor
  · simp [isTyped, Operand.type?, columnType, hf]
  · simp only [truth, Operand.datum?, hdatum, hvalue, Datum.isAny_eq_yes_iff, Option.getD_some,
      FieldValue.oneOf, SortedSet.contains_iff_mem, mem]
    cases o with
    | none => simp [DataType.value_ne_null]
    | some a => simp [eq_comm]

/-- A field of sets has one of the values, which are the elements of an array. -/
theorem agrees_overlap (hrow : row.Represents r) (hf : f.isSetValued)
    {values : SortedSet Value} {l : List f.Content}
    (mem : ∀ v, v ∈ values ↔ ∃ a ∈ l, f.dataType.value a = v) :
    Agrees row (.overlap (.column (.field f)) (.parameter (.array f.dataType l)))
      ((r.fieldValue f).oneOf values) := by
  obtain ⟨elements, s, hdatum, hvalue, hmem⟩ := hrow.of_array hf
  constructor
  · simp [isTyped, Operand.type?, columnType, hf]
  · simp only [truth, Operand.datum?, hdatum, hvalue, Datum.overlap_eq_yes_iff, Option.getD_some,
      FieldValue.oneOf, SortedSet.intersects_iff, hmem, mem]
    constructor
    · rintro ⟨a, ha, hal⟩
      exact ⟨_, ⟨a, ha, rfl⟩, a, hal, rfl⟩
    · rintro ⟨v, ⟨a, ha, rfl⟩, b, hb, hab⟩
      rw [DataType.value_inj] at hab
      exact ⟨a, ha, hab ▸ hb⟩

/-- A field has one of the values just if the condition for them is true. -/
theorem agrees_ofOneOf (hrow : row.Represents r) {values : SortedSet Value}
    (hfits : ∀ v ∈ values, f.fits v) (hc : ofOneOf f values.toList = .ok c) :
    Agrees row c ((r.fieldValue f).oneOf values) := by
  cases hvalues : values.toList with
  | nil =>
    have nothing : ∀ v, v ∉ values := fun v hv => by
      rw [SortedBy.mem_def, hvalues] at hv
      cases hv
    rw [hvalues] at hc
    cases hc
    refine ⟨rfl, ?_⟩
    cases r.fieldValue f with
    | scalar v => simp [truth, FieldValue.oneOf, nothing]
    | set s => simp [truth, FieldValue.oneOf, SortedSet.intersects_iff, nothing]
  | cons least others =>
    rw [hvalues] at hc
    obtain ⟨p, hp, rfl⟩ := map_eq_ok_iff.1 hc
    have hleast : f.fits least := hfits least (by rw [SortedBy.mem_def, hvalues]; simp)
    obtain ⟨l, rfl, hl⟩ := Parameter.eq_array_of_ofValues hleast hp
    have mem : ∀ v, v ∈ values ↔ ∃ a ∈ l, f.dataType.value a = v := fun v => by
      rw [SortedBy.mem_def, hvalues, hl, List.mem_map]
    cases hf : f.isSetValued with
    | false => exact agrees_isAny hrow hf mem
    | true => exact agrees_overlap hrow hf mem

/-! ### Bounds -/

variable {element : Option Datum} {type : Option DataType} {t : DataType} {a : Operand}

/-- The conditions for a bound: none, or one comparison. -/
theorem of_ofBound {how : Comparison} {bound : Option Value} {l : List Condition}
    (hfits : ∀ v, bound = some v → f.fits v) (hl : ofBound a how bound = .ok l) :
    bound = none ∧ l = [] ∨
      ∃ b : f.Content, bound = some (f.dataType.value b) ∧
        l = [.compare a how (.parameter (.scalar f.dataType b))] := by
  cases bound with
  | none => cases hl; exact .inl ⟨rfl, rfl⟩
  | some v =>
    rcases Field.eq_null_or_value_of_fits (hfits v rfl) with rfl | ⟨b, rfl⟩
    · cases hl
    · rw [ofBound, Parameter.ofValue_value] at hl
      cases hl
      exact .inr ⟨b, rfl, rfl⟩

/-- A value lies above a bound just if the comparison for it holds. -/
theorem isAbove_value (b : t.Carrier) (closed : Bool) (x : t.Carrier) :
    (t.value x).isAbove (some (t.value b)) closed =
      (if closed then Comparison.ge else .gt).test (Ord.compare x b) := by
  rw [Value.isAbove, DataType.compare?_value]
  cases closed <;> cases Ord.compare x b <;> rfl

/-- A value lies below a bound just if the comparison for it holds. -/
theorem isBelow_value (b : t.Carrier) (closed : Bool) (x : t.Carrier) :
    (t.value x).isBelow (some (t.value b)) closed =
      (if closed then Comparison.le else .lt).test (Ord.compare x b) := by
  rw [Value.isBelow, DataType.compare?_value]
  cases closed <;> cases Ord.compare x b <;> rfl

/-- What is there lies within bounds if it is above the one and below the other. -/
theorem liesWithin_elim {o : Option t.Carrier} {lower upper : Option Value}
    {lowerClosed upperClosed : Bool} :
    Value.liesWithin lower upper lowerClosed upperClosed (o.elim .null t.value) ↔
      ∃ x, o = some x ∧ (t.value x).isAbove lower lowerClosed ∧
        (t.value x).isBelow upper upperClosed := by
  cases o with
  | none => simp [Value.liesWithin, Value.isNull]
  | some x => simp [Value.liesWithin]

theorem truth_compare {how : Comparison} {b : t.Carrier} {o : Option t.Carrier}
    (hdatum : a.datum? row element = some (.single t o)) :
    (compare a how (.parameter (.scalar t b))).truth row element = .yes ↔
      ∃ x, o = some x ∧ how.test (Ord.compare x b) := by
  rw [truth, hdatum]
  exact Datum.compare_eq_yes_iff

theorem isTyped_compare {how : Comparison} {b : t.Carrier}
    (htype : a.type? type = some (.single t)) :
    (compare a how (.parameter (.scalar t b))).isTyped type := by
  rw [isTyped, htype]
  exact beq_self_eq_true t

/-- The conditions for the two sides, put together. -/
theorem of_ofBounds {lower upper : Option Value} {lowerClosed upperClosed : Bool}
    {l : List Condition} (hl : ofBounds a lower upper lowerClosed upperClosed = .ok l) :
    ∃ low high, ofBound a (if lowerClosed then .ge else .gt) lower = .ok low ∧
      ofBound a (if upperClosed then .le else .lt) upper = .ok high ∧
      l = if (low ++ high).isEmpty then [.isNotNull a] else low ++ high := by
  rw [ofBounds] at hl
  cases hlow : ofBound a (if lowerClosed then .ge else .gt) lower with
  | error fault => rw [hlow] at hl; cases hl
  | ok low =>
    cases hhigh : ofBound a (if upperClosed then .le else .lt) upper with
    | error fault => rw [hlow, hhigh] at hl; cases hl
    | ok high =>
      rw [hlow, hhigh] at hl
      cases hl
      exact ⟨low, high, rfl, rfl, rfl⟩

/-- The conditions for bounds are true together of what is there and lies within the bounds. -/
theorem truthOfAll_ofBounds {lower upper : Option Value} {lowerClosed upperClosed : Bool}
    {l : List Condition} (hlower : ∀ v, lower = some v → f.fits v)
    (hupper : ∀ v, upper = some v → f.fits v)
    (htype : a.type? type = some (.single f.dataType))
    (hl : ofBounds a lower upper lowerClosed upperClosed = .ok l) :
    areTyped type l ∧ ∀ (row : Row) (element : Option Datum) (o : Option f.Content),
      a.datum? row element = some (.single f.dataType o) →
        (truthOfAll row element l = .yes ↔
          Value.liesWithin lower upper lowerClosed upperClosed
            (o.elim .null f.dataType.value)) := by
  obtain ⟨low, high, hlow, hhigh, rfl⟩ := of_ofBounds hl
  rcases of_ofBound hlower hlow with ⟨rfl, rfl⟩ | ⟨b, rfl, rfl⟩
  · rcases of_ofBound hupper hhigh with ⟨rfl, rfl⟩ | ⟨c, rfl, rfl⟩
    · refine ⟨?_, fun row element o hdatum => ?_⟩
      · simp [areTyped, isTyped, htype]
      · rw [liesWithin_elim]
        cases o with
        | none => simp [truthOfAll, truth, hdatum, Datum.isNull]
        | some x => simp [truthOfAll, truth, hdatum, Datum.isNull, Value.isAbove, Value.isBelow]
    · refine ⟨?_, fun row element o hdatum => ?_⟩
      · simp [areTyped, isTyped_compare htype]
      · rw [liesWithin_elim]
        simp [truthOfAll, truth_compare hdatum, isBelow_value, Value.isAbove]
  · rcases of_ofBound hupper hhigh with ⟨rfl, rfl⟩ | ⟨c, rfl, rfl⟩
    · refine ⟨?_, fun row element o hdatum => ?_⟩
      · simp [areTyped, isTyped_compare htype]
      · rw [liesWithin_elim]
        simp [truthOfAll, truth_compare hdatum, isAbove_value, Value.isBelow]
    · refine ⟨?_, fun row element o hdatum => ?_⟩
      · simp [areTyped, isTyped_compare htype]
      · rw [liesWithin_elim]
        simp only [List.cons_append, List.nil_append, List.isEmpty_cons, Bool.false_eq_true,
          ↓reduceIte, truthOfAll, Truth.and_yes, Truth.and_eq_yes_iff, truth_compare hdatum,
          isAbove_value, isBelow_value]
        cases o with
        | none => simp
        | some x => simp

/-- The condition for bounds on a field: on its elements, if it is a field of sets. -/
theorem of_ofWithin {lower upper : Option Value} {lowerClosed upperClosed : Bool}
    (hc : ofWithin f lower upper lowerClosed upperClosed = .ok c) :
    (f.isSetValued = false ∧ ∃ l, c = .all l ∧
        ofBounds (.column (.field f)) lower upper lowerClosed upperClosed = .ok l) ∨
      (f.isSetValued ∧ ∃ l, c = .someElement (.column (.field f)) l ∧
        ofBounds .element lower upper lowerClosed upperClosed = .ok l) := by
  rw [ofWithin] at hc
  cases hf : f.isSetValued with
  | false =>
    rw [hf, if_neg Bool.false_ne_true] at hc
    obtain ⟨l, hl, rfl⟩ := map_eq_ok_iff.1 hc
    exact .inl ⟨rfl, l, rfl, hl⟩
  | true =>
    rw [hf, if_pos rfl] at hc
    obtain ⟨l, hl, rfl⟩ := map_eq_ok_iff.1 hc
    exact .inr ⟨rfl, l, rfl, hl⟩

/-- A field has a value within bounds just if the condition for it is true. -/
theorem agrees_ofWithin (hrow : row.Represents r) {lower upper : Option Value}
    {lowerClosed upperClosed : Bool} (hlower : ∀ v, lower = some v → f.fits v)
    (hupper : ∀ v, upper = some v → f.fits v)
    (hc : ofWithin f lower upper lowerClosed upperClosed = .ok c) :
    Agrees row c
      ((r.fieldValue f).hasValue (Value.liesWithin lower upper lowerClosed upperClosed)) := by
  rcases of_ofWithin hc with ⟨hf, l, rfl, hl⟩ | ⟨hf, l, rfl, hl⟩
  · obtain ⟨o, hdatum, hvalue⟩ := hrow.of_single hf
    have htype : Operand.type? none (.column (.field f)) = some (.single f.dataType) := by
      simp [Operand.type?, columnType, hf]
    obtain ⟨typed, truth⟩ := truthOfAll_ofBounds hlower hupper htype hl
    rw [hvalue, FieldValue.hasValue]
    refine ⟨by rwa [isTyped], ?_⟩
    rw [Condition.truth]
    exact truth row none o (by rw [Operand.datum?, hdatum])
  · obtain ⟨elements, s, hdatum, hvalue, hmem⟩ := hrow.of_array hf
    have htype : Operand.type? (some f.dataType) .element = some (.single f.dataType) := rfl
    obtain ⟨typed, truth⟩ := truthOfAll_ofBounds hlower hupper htype hl
    constructor
    · simp [isTyped, Operand.type?, columnType, hf, typed]
    · have each : ∀ a : f.Content,
          truthOfAll row (some (.single f.dataType (some a))) l = .yes ↔
            Value.liesWithin lower upper lowerClosed upperClosed (f.dataType.value a) :=
        fun a => truth row _ (some a) rfl
      simp only [Condition.truth, Operand.datum?, hdatum, hvalue, Datum.unnested,
        Truth.ofBool_eq_yes_iff, FieldValue.hasValue, List.any_map, List.any_eq_true,
        Function.comp_apply, beq_iff_eq, each]
      constructor
      · rintro ⟨a, ha, hwithin⟩
        exact ⟨_, (hmem _).2 ⟨a, ha, rfl⟩, hwithin⟩
      · rintro ⟨v, hv, hwithin⟩
        obtain ⟨a, ha, rfl⟩ := (hmem v).1 hv
        exact ⟨a, ha, hwithin⟩

/-! ### Trees -/

theorem of_ofPredicates_cons {p : Predicate} {rest : List Predicate} {l : List Condition}
    (hl : ofPredicates (p :: rest) = .ok l) :
    ∃ c cs, ofPredicate p = .ok c ∧ ofPredicates rest = .ok cs ∧ l = c :: cs := by
  rw [ofPredicates] at hl
  cases hp : ofPredicate p with
  | error fault => rw [hp] at hl; cases hl
  | ok c =>
    rw [hp] at hl
    obtain ⟨cs, hcs, rfl⟩ := map_eq_ok_iff.1 hl
    exact ⟨c, cs, rfl, hcs, rfl⟩

mutual

/-- The condition for a predicate is true of a row of the records the predicate holds of. -/
theorem agrees_ofPredicate (hrow : row.Represents r) :
    ∀ (p : Predicate) {c : Condition}, p.isWellKinded → ofPredicate p = .ok c →
      Agrees row c (p.holds r)
  | .equals f v, c, hp, hc => by
    rw [Predicate.isWellKinded] at hp
    rw [ofPredicate] at hc
    rw [Predicate.holds]
    exact agrees_ofEquals hrow hp hc
  | .oneOf f values, c, hp, hc => by
    rw [Predicate.isWellKinded, List.all_eq_true] at hp
    rw [ofPredicate] at hc
    rw [Predicate.holds]
    exact agrees_ofOneOf hrow hp hc
  | .within f lower upper lowerClosed upperClosed, c, hp, hc => by
    rw [Predicate.isWellKinded, Bool.and_eq_true, Option.all_eq_true, Option.all_eq_true] at hp
    rw [ofPredicate] at hc
    rw [Predicate.holds]
    exact agrees_ofWithin hrow hp.1 hp.2 hc
  | .all operands, c, hp, hc => by
    rw [Predicate.isWellKinded] at hp
    rw [ofPredicate] at hc
    obtain ⟨cs, hcs, rfl⟩ := map_eq_ok_iff.1 hc
    obtain ⟨typed, all, -⟩ := agree_ofPredicates hrow operands hp hcs
    rw [Agrees, isTyped, truth, Predicate.holds]
    exact ⟨typed, all⟩
  | .any operands, c, hp, hc => by
    rw [Predicate.isWellKinded] at hp
    rw [ofPredicate] at hc
    obtain ⟨cs, hcs, rfl⟩ := map_eq_ok_iff.1 hc
    obtain ⟨typed, -, any⟩ := agree_ofPredicates hrow operands hp hcs
    rw [Agrees, isTyped, truth, Predicate.holds]
    exact ⟨typed, any⟩
  | .always b, c, _, hc => by
    rw [ofPredicate] at hc
    cases hc
    rw [Agrees, isTyped, truth, Predicate.holds, Truth.ofBool_eq_yes_iff]
    exact ⟨rfl, Iff.rfl⟩

/-- The same of several predicates, together and apart. -/
theorem agree_ofPredicates (hrow : row.Represents r) :
    ∀ (l : List Predicate) {cs : List Condition}, Predicate.areWellKinded l →
      ofPredicates l = .ok cs → areTyped none cs ∧
        (truthOfAll row none cs = .yes ↔ Predicate.allHold r l) ∧
        (truthOfAny row none cs = .yes ↔ Predicate.someHolds r l)
  | [], cs, _, hcs => by
    rw [ofPredicates] at hcs
    cases hcs
    exact ⟨rfl, by simp [truthOfAll, Predicate.allHold], by simp [truthOfAny, Predicate.someHolds]⟩
  | p :: rest, l, hp, hl => by
    rw [Predicate.areWellKinded, Bool.and_eq_true] at hp
    obtain ⟨c, cs, hc, hcs, rfl⟩ := of_ofPredicates_cons hl
    obtain ⟨typed, truth⟩ := agrees_ofPredicate hrow p hp.1 hc
    obtain ⟨typeds, all, any⟩ := agree_ofPredicates hrow rest hp.2 hcs
    refine ⟨?_, ?_, ?_⟩
    · rw [areTyped, typed, typeds]
      rfl
    · rw [truthOfAll, Truth.and_eq_yes_iff, truth, all, Predicate.allHold, Bool.and_eq_true]
    · rw [truthOfAny, Truth.or_eq_yes_iff, truth, any, Predicate.someHolds, Bool.or_eq_true]

end

end Condition

end Sql

end Mediatheque

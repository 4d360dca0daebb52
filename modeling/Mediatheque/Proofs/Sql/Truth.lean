import Mediatheque.Proofs.Sql.Row

/-!
# Truth of conditions

What a database makes of a condition on a row. Every operand has a type, and a condition has a
meaning only if the types of its operands go together. Its truth may be unknown: comparisons with
what is unknown are unknown, and a conjunction or a disjunction is unknown unless what is known
decides it. A query keeps the rows of which the condition is true.

Values of one type compare as they do everywhere else: integers of 64 bits by size, texts by their
code points, days by the calendar.
-/

namespace Mediatheque.Sql

/-! ### Truth -/

/-- Truth that may be unknown. -/
inductive Truth where
  /-- It is so. -/
  | yes
  /-- It is not so. -/
  | no
  /-- Nobody knows. -/
  | unknown
  deriving DecidableEq, Repr

namespace Truth

/-- The truth of what is known. -/
def ofBool (b : Bool) : Truth := if b then .yes else .no

/-- Conjunction; what is false decides it. -/
def and : Truth → Truth → Truth
  | .no, _ | _, .no => .no
  | .yes, .yes => .yes
  | _, _ => .unknown

/-- Disjunction; what is true decides it. -/
def or : Truth → Truth → Truth
  | .yes, _ | _, .yes => .yes
  | .no, .no => .no
  | _, _ => .unknown

@[simp] theorem ofBool_eq_yes_iff {b : Bool} : ofBool b = .yes ↔ b := by cases b <;> decide

@[simp] theorem and_eq_yes_iff {a b : Truth} : a.and b = .yes ↔ a = .yes ∧ b = .yes := by
  cases a <;> cases b <;> decide

@[simp] theorem or_eq_yes_iff {a b : Truth} : a.or b = .yes ↔ a = .yes ∨ b = .yes := by
  cases a <;> cases b <;> decide

@[simp] theorem and_yes (a : Truth) : a.and .yes = a := by cases a <;> rfl

@[simp] theorem or_no (a : Truth) : a.or .no = a := by cases a <;> rfl

end Truth

/-! ### Operations -/

/-- Whether a comparison holds of what compares in the given way. -/
def Comparison.test : Comparison → Ordering → Bool
  | .eq => Ordering.isEq
  | .lt => Ordering.isLT
  | .le => Ordering.isLE
  | .gt => Ordering.isGT
  | .ge => Ordering.isGE

namespace Datum

/-- A comparison of single values. -/
def compare (how : Comparison) : Datum → Datum → Truth
  | .single t (some a), .single t' (some b) =>
    if h : t = t' then .ofBool (how.test (Ord.compare (h ▸ a) b)) else .unknown
  | _, _ => .unknown

/-- Whether it is unknown. -/
def isNull : Datum → Bool
  | .single _ value => value.isNone
  | .array _ elements => elements.isNone

/-- Whether an array has no elements, or is unknown. -/
def isEmpty : Datum → Truth
  | .array _ elements => .ofBool (elements.getD []).isEmpty
  | _ => .unknown

/-- The elements of an array one by one; none if it is unknown. -/
def unnested : Datum → List Datum
  | .array t elements => (elements.getD []).map fun a => .single t (some a)
  | _ => []

/-- Whether a single value is the same as an element of an array: the disjunction over its
elements. -/
def isAny (a : Datum) : Datum → Truth
  | .array t (some elements) =>
    elements.foldr (fun e truth => (a.compare .eq (.single t (some e))).or truth) .no
  | _ => .unknown

/-- Whether two arrays have an element in common. -/
def overlap : Datum → Datum → Truth
  | .array t (some l), .array t' (some m) =>
    if h : t = t' then
      .ofBool (l.any fun a => m.any fun b => (Ord.compare (h ▸ a : t'.Carrier) b).isEq)
    else .unknown
  | _, _ => .unknown

variable {t : DataType}

/-- A comparison is true if both values are known and compare so. -/
theorem compare_eq_yes_iff {how : Comparison} {o : Option t.Carrier} {b : t.Carrier} :
    (single t o).compare how (.single t (some b)) = .yes ↔
      ∃ a, o = some a ∧ how.test (Ord.compare a b) := by
  cases o with
  | none => simp [compare]
  | some a => simp [compare]

/-- Values are the same if they are known and are the same. -/
theorem compare_eq_eq_yes_iff {o : Option t.Carrier} {b : t.Carrier} :
    (single t o).compare .eq (.single t (some b)) = .yes ↔ o = some b := by
  rw [compare_eq_yes_iff]
  simp only [Comparison.test, Ordering.isEq_iff_eq_eq, Std.LawfulEqOrd.compare_eq_iff_eq]
  exact ⟨fun ⟨_, ho, hab⟩ => hab ▸ ho, fun ho => ⟨b, ho, rfl⟩⟩

theorem isAny_eq_yes_iff {o : Option t.Carrier} {elements : Option (List t.Carrier)} :
    (single t o).isAny (.array t elements) = .yes ↔ ∃ a ∈ elements.getD [], o = some a := by
  cases elements with
  | none => simp [isAny]
  | some l =>
    rw [isAny, Option.getD_some]
    induction l with
    | nil => simp
    | cons e l ih =>
      rw [List.foldr_cons, Truth.or_eq_yes_iff, compare_eq_eq_yes_iff, ih]
      simp only [List.mem_cons, exists_eq_or_imp]

theorem overlap_eq_yes_iff {l m : Option (List t.Carrier)} :
    (array t l).overlap (.array t m) = .yes ↔ ∃ a ∈ l.getD [], a ∈ m.getD [] := by
  cases l with
  | none => simp [overlap]
  | some l =>
    cases m with
    | none => simp [overlap]
    | some m => simp [overlap]

end Datum

/-! ### Types of conditions -/

/-- The type of a datum. -/
inductive DatumType where
  /-- Single values of a type. -/
  | single (type : DataType)
  /-- Arrays with elements of a type. -/
  | array (type : DataType)
  deriving DecidableEq, Repr

/-- The type of the column of a field. -/
def columnType (f : Field) : DatumType :=
  if f.isSetValued then .array f.dataType else .single f.dataType

/-- The type of an operand, within the given type of the element that is looked at. -/
def Operand.type? (element : Option DataType) : Operand → Option DatumType
  | .column (.field f) => some (columnType f)
  | .column _ => none
  | .element => element.map .single
  | .parameter (.scalar t _) => some (.single t)
  | .parameter (.array t _) => some (.array t)

/-- What an operand is on a row, beside the element that is looked at. -/
def Operand.datum? (row : Row) (element : Option Datum) : Operand → Option Datum
  | .column (.field f) => some (row f)
  | .column _ => none
  | .element => element
  | .parameter (.scalar t a) => some (.single t (some a))
  | .parameter (.array t l) => some (.array t (some l))

namespace Condition

mutual

/-- Whether the types of the operands go together. -/
def isTyped (element : Option DataType) : Condition → Bool
  | .compare a _ b =>
    match a.type? element, b.type? element with
    | some (.single t), some (.single t') => t == t'
    | _, _ => false
  | .isNull a => (a.type? element).isSome
  | .isNotNull a => (a.type? element).isSome
  | .isEmpty array =>
    match array.type? element with
    | some (.array _) => true
    | _ => false
  | .isAny a array =>
    match a.type? element, array.type? element with
    | some (.single t), some (.array t') => t == t'
    | _, _ => false
  | .overlap array other =>
    match array.type? element, other.type? element with
    | some (.array t), some (.array t') => t == t'
    | _, _ => false
  | .someElement array conditions =>
    match array.type? element with
    | some (.array t) => areTyped (some t) conditions
    | _ => false
  | .all conditions => areTyped element conditions
  | .any conditions => areTyped element conditions
  | .constant _ => true

/-- Whether the types go together in each of several conditions. -/
def areTyped (element : Option DataType) : List Condition → Bool
  | [] => true
  | c :: rest => isTyped element c && areTyped element rest

end

/-! ### Truth of conditions -/

mutual

/-- The truth of a condition on a row, beside the element that is looked at. -/
def truth (row : Row) (element : Option Datum) : Condition → Truth
  | .compare a how b =>
    match a.datum? row element, b.datum? row element with
    | some x, some y => x.compare how y
    | _, _ => .unknown
  | .isNull a => ((a.datum? row element).map fun x => .ofBool x.isNull).getD .unknown
  | .isNotNull a => ((a.datum? row element).map fun x => .ofBool !x.isNull).getD .unknown
  | .isEmpty array => ((array.datum? row element).map Datum.isEmpty).getD .unknown
  | .isAny a array =>
    match a.datum? row element, array.datum? row element with
    | some x, some y => x.isAny y
    | _, _ => .unknown
  | .overlap array other =>
    match array.datum? row element, other.datum? row element with
    | some x, some y => x.overlap y
    | _, _ => .unknown
  | .someElement array conditions =>
    match array.datum? row element with
    | some x => .ofBool (x.unnested.any fun e => truthOfAll row (some e) conditions == .yes)
    | none => .unknown
  | .all conditions => truthOfAll row element conditions
  | .any conditions => truthOfAny row element conditions
  | .constant b => .ofBool b

/-- The conjunction of several conditions. -/
def truthOfAll (row : Row) (element : Option Datum) : List Condition → Truth
  | [] => .yes
  | c :: rest => (truth row element c).and (truthOfAll row element rest)

/-- The disjunction of several conditions. -/
def truthOfAny (row : Row) (element : Option Datum) : List Condition → Truth
  | [] => .no
  | c :: rest => (truth row element c).or (truthOfAny row element rest)

end

end Condition

end Mediatheque.Sql

import Mediatheque.Proofs.Sql.Token
import Mediatheque.Proofs.Sql.Truth

/-!
# Reading conditions

The grammar of conditions, as a machine that reads the tokens of a statement from the left to the
right. Comparisons bind tighter than conjunction, and conjunction binds tighter than disjunction;
parentheses group. So a group is a disjunction of conjunctions of what was read, and the machine
keeps one for every parenthesis that is open. What it reads from the text of a condition is the
condition again, except that every group is spelled out as a disjunction of conjunctions
(`condition?_ofPieces`), and this is the same for the truth of it (`truth_asRead`).
-/

namespace Mediatheque.Sql

/-! ### The machine -/

/-- What was read of a group: a disjunction of conjunctions, the last of which may go on. -/
structure Group where
  /-- The array whose elements the group is about; none between mere parentheses. -/
  array : Option Operand
  /-- The conjunctions before the last one. -/
  alternatives : List Condition
  /-- What the last conjunction has so far. -/
  conjuncts : List Condition

namespace Group

/-- The group as one condition. -/
def condition (g : Group) : Condition :=
  let whole : Condition := .any (g.alternatives ++ [.all g.conjuncts])
  match g.array with
  | none => whole
  | some a => .someElement a [whole]

/-- The group with another condition in its last conjunction. -/
def meet (g : Group) (c : Condition) : Group := { g with conjuncts := g.conjuncts ++ [c] }

/-- The group with another conjunction at its end. -/
def join (g : Group) : Group := ⟨g.array, g.alternatives ++ [.all g.conjuncts], []⟩

end Group

/-- How far the machine is. -/
structure Reading where
  /-- The innermost group that is open. -/
  group : Group
  /-- The groups around it, from the inside out. -/
  outer : List Group
  /-- Whether a condition comes next, and not a word after one. -/
  awaits : Bool

namespace Reading

/-- Nothing was read yet. -/
def start : Reading := ⟨⟨none, [], []⟩, [], true⟩

/-- A condition was read. -/
def met (s : Reading) (c : Condition) : Option Reading :=
  if s.awaits then some ⟨s.group.meet c, s.outer, false⟩ else none

/-- The word for conjunction was read. -/
def and (s : Reading) : Option Reading :=
  if s.awaits then none else some ⟨s.group, s.outer, true⟩

/-- The word for disjunction was read. -/
def or (s : Reading) : Option Reading :=
  if s.awaits then none else some ⟨s.group.join, s.outer, true⟩

/-- A group was opened. -/
def opened (s : Reading) (array : Option Operand) : Option Reading :=
  if s.awaits then some ⟨⟨array, [], []⟩, s.group :: s.outer, true⟩ else none

/-- The innermost group was closed. -/
def closed (s : Reading) : Option Reading :=
  match s.awaits, s.outer with
  | false, g :: outer => some ⟨g.meet s.group.condition, outer, false⟩
  | _, _ => none

/-- The end was reached: what was read, if all groups are closed. -/
def finished (s : Reading) : Option Condition :=
  match s.awaits, s.outer with
  | false, [] => some s.group.condition
  | _, _ => none

end Reading

/-- Reads on from some tokens. -/
def readFrom : List Token → Reading → Option Condition
  | [], s => s.finished
  | .openT :: rest, s => (s.opened none).bind (readFrom rest)
  | .closeT :: rest, s => s.closed.bind (readFrom rest)
  | .andT :: rest, s => s.and.bind (readFrom rest)
  | .orT :: rest, s => s.or.bind (readFrom rest)
  | .constant b :: rest, s => (s.met (.constant b)).bind (readFrom rest)
  | .operand a :: .comparison .eq :: .anyT :: .openT :: .operand b :: .closeT :: rest, s =>
    (s.met (.isAny a b)).bind (readFrom rest)
  | .operand a :: .comparison how :: .operand b :: rest, s =>
    (s.met (.compare a how b)).bind (readFrom rest)
  | .operand a :: .overlapT :: .operand b :: rest, s => (s.met (.overlap a b)).bind (readFrom rest)
  | .operand a :: .isT :: .nullT :: rest, s => (s.met (.isNull a)).bind (readFrom rest)
  | .operand a :: .isT :: .notT :: .nullT :: rest, s =>
    (s.met (.isNotNull a)).bind (readFrom rest)
  | .coalesceT :: .openT :: .cardinalityT :: .openT :: .operand a :: .closeT :: .commaT
      :: .number 0 :: .closeT :: .comparison .eq :: .number 0 :: rest, s =>
    (s.met (.isEmpty a)).bind (readFrom rest)
  | .existsT :: .openT :: .selectT :: .number 1 :: .fromT :: .unnestT :: .openT :: .operand a
      :: .closeT :: .asT :: .operand .element :: .whereT :: rest, s =>
    (s.opened (some a)).bind (readFrom rest)
  | _, _ => none

/-- The condition that a statement states, if it states one. -/
def Statement.condition? (s : Statement) : Option Condition := readFrom s.tokens .start

/-- Without parentheses, conjunction binds tighter than disjunction. -/
example : (Statement.mk "TRUE OR status IS NULL AND season_count > $1"
    [.scalar .int8 6]).condition? =
      some (.any [.all [.constant true], .all [.isNull (.column (.field .status)),
        .compare (.column (.field .seasonCount)) .gt (.parameter (.scalar .int8 6))]]) := rfl

/-! ### Conditions with their groups spelled out -/

namespace Condition

mutual

/-- Every group has a condition in it. -/
def hasParts : Condition → Bool
  | .someElement _ conditions => !conditions.isEmpty && haveParts conditions
  | .all conditions => !conditions.isEmpty && haveParts conditions
  | .any conditions => !conditions.isEmpty && haveParts conditions
  | _ => true

/-- The same of several conditions. -/
def haveParts : List Condition → Bool
  | [] => true
  | c :: rest => hasParts c && haveParts rest

end

mutual

/-- The condition with every group in it as a disjunction of conjunctions. -/
def asRead : Condition → Condition
  | .someElement array conditions => .someElement array [.any [.all (asReadAll conditions)]]
  | .all conditions => .any [.all (asReadAll conditions)]
  | .any conditions => .any (asReadEach conditions)
  | c => c

/-- Conditions of one conjunction. -/
def asReadAll : List Condition → List Condition
  | [] => []
  | c :: rest => asRead c :: asReadAll rest

/-- Conditions each of which is a conjunction. -/
def asReadEach : List Condition → List Condition
  | [] => []
  | c :: rest => .all [asRead c] :: asReadEach rest

end

mutual

/-- To spell out the groups changes nothing about the types. -/
theorem isTyped_asRead (type : Option DataType) :
    ∀ c : Condition, c.asRead.isTyped type = c.isTyped type
  | .someElement array conditions => by
    rw [asRead, isTyped, isTyped]
    cases array.type? type with
    | none => rfl
    | some datumType =>
      cases datumType with
      | single t => rfl
      | array t => simp [areTyped, isTyped, areTyped_asReadAll (some t) conditions]
  | .all conditions => by
    simp [asRead, isTyped, areTyped, areTyped_asReadAll type conditions]
  | .any conditions => by
    rw [asRead, isTyped, isTyped, areTyped_asReadEach type conditions]
  | .compare _ _ _ | .isNull _ | .isNotNull _ | .isEmpty _ | .isAny _ _ | .overlap _ _
  | .constant _ => rfl

theorem areTyped_asReadAll (type : Option DataType) :
    ∀ l : List Condition, areTyped type (asReadAll l) = areTyped type l
  | [] => rfl
  | c :: rest => by
    rw [asReadAll, areTyped, areTyped, isTyped_asRead type c, areTyped_asReadAll type rest]

theorem areTyped_asReadEach (type : Option DataType) :
    ∀ l : List Condition, areTyped type (asReadEach l) = areTyped type l
  | [] => rfl
  | c :: rest => by
    rw [asReadEach, areTyped, areTyped, isTyped, areTyped, areTyped, Bool.and_true,
      isTyped_asRead type c, areTyped_asReadEach type rest]

end

variable (row : Row)

mutual

/-- To spell out the groups changes nothing about the truth. -/
theorem truth_asRead (element : Option Datum) :
    ∀ c : Condition, c.asRead.truth row element = c.truth row element
  | .someElement array conditions => by
    rw [asRead, truth, truth]
    cases array.datum? row element with
    | none => rfl
    | some x =>
      simp only [truthOfAll, truth, truthOfAny, Truth.or_no, Truth.and_yes,
        fun e => truthOfAll_asReadAll (some e) conditions]
  | .all conditions => by
    simp only [asRead, truth, truthOfAny, Truth.or_no, truthOfAll_asReadAll element conditions]
  | .any conditions => by
    rw [asRead, truth, truth, truthOfAny_asReadEach element conditions]
  | .compare _ _ _ | .isNull _ | .isNotNull _ | .isEmpty _ | .isAny _ _ | .overlap _ _
  | .constant _ => rfl

theorem truthOfAll_asReadAll (element : Option Datum) :
    ∀ l : List Condition, truthOfAll row element (asReadAll l) = truthOfAll row element l
  | [] => rfl
  | c :: rest => by
    rw [asReadAll, truthOfAll, truthOfAll, truth_asRead element c,
      truthOfAll_asReadAll element rest]

theorem truthOfAny_asReadEach (element : Option Datum) :
    ∀ l : List Condition, truthOfAny row element (asReadEach l) = truthOfAny row element l
  | [] => rfl
  | c :: rest => by
    rw [asReadEach, truthOfAny, truthOfAny, truth, truthOfAll, truthOfAll, Truth.and_yes,
      truth_asRead element c, truthOfAny_asReadEach element rest]

end

end Condition

end Mediatheque.Sql

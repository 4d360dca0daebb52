import Mediatheque.Predicate.Basic

/-!
# Shapes

A predicate is a shape with literals in it. Predicates of one shape are the same tree over the
same fields, and their bounds are closed alike; they differ in the values that fields are compared
with, and in no other way. The missing value is not such a literal, nor is a missing bound or an
empty set: each of them belongs to the shape.
-/

namespace Mediatheque

/-- What a field is compared with in one place. -/
inductive Literal where
  /-- A value. -/
  | one (v : Value)
  /-- The values of a set, in order. -/
  | set (values : List Value)

namespace Predicate

/-- Bounds that are both missing, or both there and closed alike. -/
inductive SameBound : Option Value → Bool → Option Value → Bool → Prop where
  /-- There is no bound, and whether it would be closed says nothing. -/
  | none {closed closed' : Bool} : SameBound none closed none closed'
  /-- There is a bound. -/
  | some {v w : Value} {closed : Bool} : SameBound (some v) closed (some w) closed

mutual

/-- Predicates that differ in their literals at most. -/
inductive SameShape : Predicate → Predicate → Prop where
  /-- Both ask whether the field is unknown. -/
  | unknown {f : Field} : SameShape (.equals f .null) (.equals f .null)
  /-- Both ask for a value. -/
  | equals {f : Field} {v w : Value} :
    v ≠ .null → w ≠ .null → SameShape (.equals f v) (.equals f w)
  /-- Both have nothing to choose from. -/
  | noChoice {f : Field} : SameShape (.oneOf f .empty) (.oneOf f .empty)
  /-- Both have something to choose from. -/
  | oneOf {f : Field} {values others : SortedSet Value} :
    values ≠ .empty → others ≠ .empty → SameShape (.oneOf f values) (.oneOf f others)
  /-- Both have the same bounds. -/
  | within {f : Field} {lower upper lower' upper' : Option Value}
      {lowerClosed upperClosed lowerClosed' upperClosed' : Bool} :
    SameBound lower lowerClosed lower' lowerClosed' →
    SameBound upper upperClosed upper' upperClosed' →
    SameShape (.within f lower upper lowerClosed upperClosed)
      (.within f lower' upper' lowerClosed' upperClosed')
  /-- Conjunctions of the same shapes. -/
  | all {l m : List Predicate} : SameShapes l m → SameShape (.all l) (.all m)
  /-- Disjunctions of the same shapes. -/
  | any {l m : List Predicate} : SameShapes l m → SameShape (.any l) (.any m)
  /-- The same constant. -/
  | always {b : Bool} : SameShape (.always b) (.always b)

/-- The same of several predicates, one by one. -/
inductive SameShapes : List Predicate → List Predicate → Prop where
  /-- No predicates. -/
  | nil : SameShapes [] []
  /-- One more of each. -/
  | cons {p q : Predicate} {l m : List Predicate} :
    SameShape p q → SameShapes l m → SameShapes (p :: l) (q :: m)

end

mutual

/-- The literals of a predicate from left to right: the value of a field, the lower bound and
then the upper one, a set as a whole. -/
def literals : Predicate → List Literal
  | .equals _ v => if v.isNull then [] else [.one v]
  | .oneOf _ values => if values.isEmpty then [] else [.set values.toList]
  | .within _ lower upper _ _ => lower.toList.map .one ++ upper.toList.map .one
  | .all operands => literalsOfAll operands
  | .any operands => literalsOfAll operands
  | .always _ => []

/-- The literals of several predicates. -/
def literalsOfAll : List Predicate → List Literal
  | [] => []
  | p :: rest => literals p ++ literalsOfAll rest

end

end Predicate

end Mediatheque

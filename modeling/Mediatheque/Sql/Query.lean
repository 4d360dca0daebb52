import Mediatheque.Error
import Mediatheque.Sort.Basic
import Mediatheque.Sql.Condition

/-!
# Queries

The statement that asks a database for the records a predicate holds of, in an order. The
order ends with the identity, so that it leaves nothing to the database.

The rows are sorted by expressions. Progress takes two of them, one for the season and one
for the episode: the end of a season ranks after all of its episodes, and a movie that was
watched ranks as a first season.
-/

namespace Mediatheque.Sql

/-! ### Sort expressions -/

/-- A test on a row that decides between expressions. -/
inductive Test where
  /-- A column holds the text. -/
  | holds (c : Column) (text : String)
  /-- A column is true. -/
  | isTrue (c : Column)
  /-- A column is greater than zero. -/
  | isPositive (c : Column)
  /-- A column is known. -/
  | isKnown (c : Column)
  deriving DecidableEq, Repr

/-- An expression to sort by. -/
inductive SortExpression where
  /-- A column. -/
  | column (c : Column)
  /-- A number. -/
  | number (n : Nat)
  /-- The lower case form of a text. -/
  | lower (e : SortExpression)
  /-- A text without the spaces around it. -/
  | trimmed (e : SortExpression)
  /-- A truth value as zero or one. -/
  | asNumber (e : SortExpression)
  /-- The greater one of two numbers; the known one, if only one of them is. -/
  | greatest (a b : SortExpression)
  /-- The first expression, unknown if it is the same as the second. -/
  | nullIf (a b : SortExpression)
  /-- The first expression, or the second if the first is unknown. -/
  | coalesce (a b : SortExpression)
  /-- The expression of the first test that is met; if none is, the last expression, or
  unknown without one. -/
  | choose (cases : List (Test × SortExpression)) (otherwise : Option SortExpression)

/-- The text of a test. -/
def Test.toText : Test → String
  | .holds c text => c.name ++ " = '" ++ text ++ "'"
  | .isTrue c => c.name
  | .isPositive c => c.name ++ " > 0"
  | .isKnown c => c.name ++ " IS NOT NULL"

namespace SortExpression

/-- The text of an expression in a case, in parentheses if it decides between cases itself. -/
def inCase (e : SortExpression) (text : String) : String :=
  match e with
  | .choose .. => "(" ++ text ++ ")"
  | _ => text

mutual

/-- The text of an expression. -/
def toText : SortExpression → String
  | .column c => c.name
  | .number n => String.ofList (Numeral.ofNat n)
  | .lower e => "LOWER(" ++ toText e ++ ")"
  | .trimmed e => "BTRIM(" ++ toText e ++ ")"
  | .asNumber e => toText e ++ "::INT4::INT8"
  | .greatest a b => "GREATEST(" ++ toText a ++ ", " ++ toText b ++ ")"
  | .nullIf a b => "NULLIF(" ++ toText a ++ ", " ++ toText b ++ ")"
  | .coalesce a b => "COALESCE(" ++ toText a ++ ", " ++ toText b ++ ")"
  | .choose cases otherwise => "CASE" ++ casesText cases ++ otherwiseText otherwise ++ " END"

/-- The text of cases. -/
def casesText : List (Test × SortExpression) → String
  | [] => ""
  | (test, e) :: rest =>
    " WHEN " ++ test.toText ++ " THEN " ++ inCase e (toText e) ++ casesText rest

/-- The text of the last case. -/
def otherwiseText : Option SortExpression → String
  | none => ""
  | some e => " ELSE " ++ inCase e (toText e)

end

/-! ### The expressions of the keys -/

/-- The test that a row is one of a movie. -/
def isMovie : Test := .holds (.field .kind) (Named.name MediaKind.movie)

/-- The rank of the end of a season, beyond all episodes. -/
def endOfSeason : SortExpression := .number 9223372036854775807

/-- The season by which progress sorts first. -/
def progressSeason : SortExpression :=
  .choose
    [(isMovie, .asNumber (.column (.field .watched))),
     (.isPositive (.field .lastSeason), .column (.field .lastSeason)),
     (.isKnown (.field .lastSeason), .number 0)]
    none

/-- The episode by which progress within a season sorts. -/
def progressEpisode : SortExpression :=
  .choose
    [(isMovie, .choose [(.isTrue (.field .watched), endOfSeason)] (some (.number 0))),
     (.isPositive (.field .lastSeason),
      .coalesce
        (.nullIf (.greatest (.column (.field .lastEpisode)) (.number 0)) (.number 0))
        endOfSeason)]
    (some (.number 0))

/-- The expressions of a key, the one that decides first in front. -/
def ofKey : SortKey → List SortExpression
  | .title => [.lower (.trimmed (.column .title))]
  | .releaseDate => [.column (.field .releaseDate)]
  | .rating => [.column (.field .rating)]
  | .progress => [progressSeason, progressEpisode]
  | .dateAdded => [.column .createdAt]

end SortExpression

/-! ### Queries -/

/-- The table of records. -/
def table : String := "media"

/-- The text of one term of an order. -/
def termText (t : SortTerm) : String :=
  String.join <| (SortExpression.ofKey t.key).map fun e =>
    e.toText ++ " " ++ t.direction.keyword ++ " NULLS LAST, "

/-- The text that asks for an order. -/
def orderText (o : SortOrder) : String :=
  " ORDER BY " ++ String.join (o.terms.map termText) ++ "id ASC"

/-- The statement of a predicate alone. -/
def conditionOf (p : Predicate) : Except Fault Statement :=
  (Condition.ofPredicate p).map fun c => .ofPieces c.pieces

/-- The statement that asks for the records a predicate holds of, in an order. -/
def select (p : Predicate) (o : SortOrder) : Except Fault Statement :=
  (Condition.ofPredicate p).map fun c => .ofPieces <|
    .text ("SELECT * FROM " ++ table ++ " WHERE ") :: c.pieces ++ [.text (orderText o)]

/-- A fault as an error of the library. -/
def Fault.toError (f : Fault) : LibraryError := .invalidQuery f.message

end Mediatheque.Sql

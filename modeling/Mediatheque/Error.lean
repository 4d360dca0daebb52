import Mediatheque.Named
import Mediatheque.Text.Quoted

/-!
# Errors

What can be wrong with a value, and what can go wrong in the library. Errors are causes;
`message` words them.
-/

namespace Mediatheque

/-- A vocabulary in which a name can be looked up. -/
inductive Vocabulary where
  /-- The kinds of media. -/
  | mediaKind
  /-- The production statuses. -/
  | productionStatus
  /-- The show formats. -/
  | showFormat
  /-- The sort keys. -/
  | sortKey
  deriving DecidableEq, Repr

/-- What a vocabulary is called in messages. -/
def Vocabulary.label : Vocabulary → String
  | .mediaKind => "media type"
  | .productionStatus => "media status"
  | .showFormat => "show type"
  | .sortKey => "sort key"

/-- What can be wrong with a value. -/
inductive ModelError where
  /-- A rating beyond five stars. -/
  | ratingOutOfRange (halfStars : Int)
  /-- A name that its vocabulary does not have. -/
  | unknownName (vocabulary : Vocabulary) (name : String)
  /-- A text that does not tell any progress. -/
  | invalidProgress (text : String)
  deriving DecidableEq, Repr

/-- The words for what is wrong with a value. -/
def ModelError.message : ModelError → String
  | .ratingOutOfRange halfStars =>
    "rating out of range: " ++ String.ofList (Numeral.ofInt halfStars)
      ++ " (expected 0..=10 half stars)"
  | .unknownName vocabulary name =>
    "unknown " ++ vocabulary.label ++ ": " ++ Text.quoted name
  | .invalidProgress text => "invalid watch state: " ++ Text.quoted text

/-- What can go wrong in the library. -/
inductive LibraryError where
  /-- A store failed. -/
  | storage (reason : String)
  /-- A text does not have the form of the value it is read for. -/
  | unreadable
  /-- A query cannot be asked. -/
  | invalidQuery (reason : String)
  /-- A value is wrong. -/
  | model (error : ModelError)
  deriving DecidableEq, Repr

/-- The words for what went wrong in the library. -/
def LibraryError.message : LibraryError → String
  | .storage reason => "Storage error: " ++ reason
  | .unreadable => "Serialization error: the text does not have the expected form"
  | .invalidQuery reason => "Invalid query: " ++ reason
  | .model error => "Model error: " ++ error.message

/-- The value with the given name, or the reason why there is none. -/
def Named.parse {α : Type} [Named α] (vocabulary : Vocabulary) (s : String) :
    Except ModelError α :=
  match ofName? s with
  | some a => .ok a
  | none => .error (.unknownName vocabulary s)

end Mediatheque

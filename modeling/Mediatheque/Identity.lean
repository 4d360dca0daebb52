import Mediatheque.SortedBy
import Mediatheque.Text.Numeral

/-!
# Identities

Universally unique identifiers of 128 bits, and the identities of records, lists and tags
made of them. An identifier is written as 32 hexadecimal digits in groups of 8, 4, 4, 4
and 12 with hyphens between; it is read with or without the hyphens, in braces, or after
the prefix of a resource name. Whether letters are upper or lower case makes no difference.
-/

namespace Mediatheque

open Std

/-- A universally unique identifier. -/
structure Uuid where
  /-- Its bits, the first ones most significant. -/
  bits : BitVec 128
  deriving DecidableEq, Repr

namespace Uuid

/-- Identifiers compare bit by bit, the first ones first. -/
instance : Ord Uuid := ⟨compareOn Uuid.bits⟩

instance : TransOrd Uuid := inferInstanceAs (TransCmp (compareOn Uuid.bits))

instance : LawfulEqOrd Uuid :=
  lawfulEqCmp_compareOn fun {a b} h => by cases a; cases b; simp_all

/-- The text of an identifier. -/
def toText (u : Uuid) : List Char :=
  let digits := Numeral.hexDigits 32 u.bits.toNat
  digits.take 8 ++ '-' :: (digits.drop 8).take 4 ++ '-' :: (digits.drop 12).take 4
    ++ '-' :: (digits.drop 16).take 4 ++ '-' :: digits.drop 20

/-- Reads 32 hexadecimal digits. -/
def ofDigits? (s : List Char) : Option Uuid :=
  if s.length = 32 then (Numeral.ofHex? s).map fun n => ⟨BitVec.ofNat 128 n⟩ else none

/-- Reads digits in five groups with hyphens between. -/
def ofGroups? (s : List Char) : Option Uuid :=
  let hyphens := [8, 13, 18, 23].map (s[·]?)
  if s.length = 36 ∧ hyphens = List.replicate 4 (some '-') then
    ofDigits? (s.take 8 ++ (s.drop 9).take 4 ++ (s.drop 14).take 4 ++ (s.drop 19).take 4
      ++ s.drop 24)
  else none

/-- What leads an identifier that is written as a resource name, in lower case. -/
def resourceName : List Char := "urn:uuid:".toList

/-- Reads an identifier in any of its forms. -/
def ofText? (s : List Char) : Option Uuid :=
  if s.length = 32 then ofDigits? s
  else if s.length = 36 then ofGroups? s
  else if s.length = 38 ∧ s.head? = some '\x7b' ∧ s.getLast? = some '\x7d' then
    ofGroups? ((s.drop 1).take 36)
  else if s.length = 45 ∧ (s.take 9).map Char.toLower = resourceName then ofGroups? (s.drop 9)
  else none

end Uuid

/-- What an identity is an identity of. -/
inductive IdKind where
  /-- A movie or a show. -/
  | media
  /-- A list that a user owns. -/
  | list
  /-- A tag that a user defines. -/
  | tag
  deriving DecidableEq, Repr

/-- An identity of something of the given kind. -/
structure Id (kind : IdKind) where
  /-- The identifier. -/
  uuid : Uuid
  deriving DecidableEq, Repr

/-- The identity of a movie or a show. -/
abbrev MediaId := Id .media

/-- The identity of a list that a user owns. -/
abbrev ListId := Id .list

/-- The identity of a tag that a user defines. -/
abbrev TagId := Id .tag

namespace Id

variable {kind : IdKind}

instance : Ord (Id kind) := ⟨compareOn Id.uuid⟩

instance : TransOrd (Id kind) := inferInstanceAs (TransCmp (compareOn Id.uuid))

instance : LawfulEqOrd (Id kind) :=
  lawfulEqCmp_compareOn fun {a b} h => by cases a; cases b; simp_all

end Id

end Mediatheque

/-!
# Classes of characters

A class of characters is given by the code points at which membership changes: characters
below the first boundary are outside, from there to the second one inside, and so on. The
blank characters are such a class, those with the Unicode property White_Space. Text is
trimmed by dropping the blank characters at both of its ends.
-/

namespace Mediatheque

/-- A set of characters, as the increasing list of the code points where it begins and
ends by turns. -/
structure CodePointSet where
  /-- The code points at which membership changes. -/
  boundaries : List Nat

namespace CodePointSet

/-- Whether `n` is a member, given whether the numbers below the first boundary are. -/
def memberFrom (inside : Bool) (n : Nat) : List Nat → Bool
  | [] => inside
  | b :: rest => if n < b then inside else memberFrom (!inside) n rest

/-- Whether a character is a member. -/
def contains (s : CodePointSet) (c : Char) : Bool := memberFrom false c.toNat s.boundaries

end CodePointSet

/-! ### Blank text -/

namespace Text

/-- The characters with the property White_Space. -/
def blanks : CodePointSet := ⟨[
  0x9, 0xE, 0x20, 0x21, 0x85, 0x86, 0xA0, 0xA1, 0x1680, 0x1681, 0x2000, 0x200B, 0x2028, 0x202A,
  0x202F, 0x2030, 0x205F, 0x2060, 0x3000, 0x3001]⟩

/-- Whether a character is blank. -/
def isBlank (c : Char) : Bool := blanks.contains c

/-- The text after its leading blank characters. -/
def trimStart (s : List Char) : List Char := s.dropWhile isBlank

/-- The text before its trailing blank characters. -/
def trimEnd (s : List Char) : List Char := (s.reverse.dropWhile isBlank).reverse

/-- The text without the blank characters at its ends. -/
def trim (s : List Char) : List Char := trimEnd (trimStart s)

/-- A character of core's own class of blanks is blank here. -/
theorem isBlank_of_isWhitespace {c : Char} (h : c.isWhitespace) : isBlank c := by
  simp only [Char.isWhitespace, Bool.or_eq_true, decide_eq_true_eq] at h
  rcases h with ((rfl | rfl) | rfl) | rfl <;> decide

end Text

end Mediatheque

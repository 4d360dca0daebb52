import Mediatheque.Json.Token

/-!
# Tokens are read back

A token is read back from its text, if it is one that stands for a value without loss
(`Token.IsExact`): a number has to be an integer of 64 bits, and a string to have a text. Only a
number needs a text after it that it does not run into (`Number.EndsBefore`); all tokens but
numbers begin with such a text, so tokens are read back one after another
(`isReadBack_cons`, `IsReadBack.append`).
-/

namespace Mediatheque

/-! ### Digits -/

namespace Numeral

/-- Decimal digits have no leading zero. -/
theorem head?_ofNat_ne_zero {n : Nat} (h : n ≠ 0) : (ofNat n).head? ≠ some '0' := by
  induction n using Nat.strongRecOn with
  | ind n ih =>
    by_cases small : n < 10
    · have first : ∀ d < 10, d ≠ 0 → d.digitChar ≠ '0' := by decide
      rw [ofNat, Nat.toDigits_of_lt_base small]
      exact fun h' => first n small h (Option.some.inj h')
    · have nonempty : ofNat (n / 10) ≠ [] := ofNat_ne_nil _
      have later := ih (n / 10) (by omega) (by omega)
      rw [List.head?_eq_some_head nonempty] at later
      rw [ofNat, Nat.toDigits_of_base_le (by decide) (by omega), ← ofNat, List.head?_append,
        List.head?_eq_some_head nonempty]
      exact later

end Numeral

namespace Decimal

/-- Digits end before a text that does not begin with one. -/
theorem scanDigits?_append {digits s : List Char} (nonempty : digits ≠ [])
    (all : ∀ c ∈ digits, c.isDigit) (stop : ∀ c ∈ s.head?, ¬c.isDigit) :
    scanDigits? (digits ++ s) = some (digits, s) := by
  have none : s.takeWhile Char.isDigit = [] ∧ s.dropWhile Char.isDigit = s := by
    cases s with
    | nil => exact ⟨rfl, rfl⟩
    | cons c s =>
      have hc := stop c rfl
      exact ⟨List.takeWhile_cons_of_neg hc, List.dropWhile_cons_of_neg hc⟩
  unfold scanDigits?
  rw [List.takeWhile_append_of_pos all, List.dropWhile_append_of_pos all, none.1, none.2,
    List.append_nil]
  cases digits with
  | nil => exact absurd rfl nonempty
  | cons c digits => rfl

end Decimal

namespace Json

/-! ### Numbers -/

namespace Number

/-- A number ends before the text: it does not go on with a digit, a point or an exponent. -/
def EndsBefore (s : List Char) : Prop :=
  ∀ c ∈ s.head?, ¬c.isDigit ∧ c ≠ '.' ∧ c ≠ 'e' ∧ c ≠ 'E'

/-- The integers that are read as integers. -/
def Fits (i : Int) : Prop := Int64.minValue.toInt ≤ i ∧ i < UInt64.size

/-- Digits are appended as long as the number they make fits. -/
theorem appendDigits_eq {start : Nat} {digits : List Char}
    (h : Nat.ofDigitChars 10 digits start < UInt64.size) :
    appendDigits start digits = (Nat.ofDigitChars 10 digits start, []) := by
  induction digits generalizing start with
  | nil => rfl
  | cons c digits ih =>
    rw [Nat.ofDigitChars_cons] at h ⊢
    have grows : ∀ (l : List Char) (m : Nat), m ≤ Nat.ofDigitChars 10 l m := by
      intro l
      induction l with
      | nil => exact fun m => Nat.le_refl m
      | cons d l ih =>
        intro m
        have := ih (10 * m + (d.toNat - '0'.toNat))
        rw [Nat.ofDigitChars_cons]
        omega
    have fits := Nat.lt_of_le_of_lt (grows digits _) h
    rw [appendDigits, if_pos fits, ih h]

theorem scanWhole?_append {n : Nat} {s : List Char} (stop : EndsBefore s) :
    scanWhole? (Numeral.ofNat n ++ s) = some (Numeral.ofNat n, s) := by
  have whole : Numeral.ofNat n = ['0'] ∨ (Numeral.ofNat n).head? ≠ some '0' := by
    by_cases h : n = 0
    · exact .inl (by rw [h]; rfl)
    · exact .inr (Numeral.head?_ofNat_ne_zero h)
  rw [scanWhole?, Decimal.scanDigits?_append (Numeral.ofNat_ne_nil n)
    (fun _ => Numeral.isDigit_of_mem_ofNat) fun c hc => (stop c hc).1]
  simpa using whole

theorem scanFraction?_of_endsBefore {s : List Char} (stop : EndsBefore s) :
    Decimal.scanFraction? s = some ([], s) := by
  unfold Decimal.scanFraction?
  split
  · exact absurd rfl (stop '.' rfl).2.1
  · rfl

theorem scanExponent?_of_endsBefore {s : List Char} (stop : EndsBefore s) :
    Decimal.scanExponent? s = some (none, s) := by
  unfold Decimal.scanExponent?
  split
  · exact absurd rfl (stop 'e' rfl).2.2.1
  · exact absurd rfl (stop 'E' rfl).2.2.2
  · rfl

/-- Digits that make an integer of 64 bits are read as it. -/
theorem ofParts_ofNat (negative : Bool) {n : Nat} (h : n < UInt64.size)
    (fits : Int64.minValue.toInt ≤ if negative then -(n : Int) else n)
    (sign : negative → n ≠ 0) :
    ofParts negative (Numeral.ofNat n) [] none = .int (if negative then -(n : Int) else n) := by
  have value : Nat.ofDigitChars 10 (Numeral.ofNat n) 0 = n := Nat.ofDigitChars_ten_toDigits
  have digits : decimal (Numeral.ofNat n) [] 0 = (n, 0) := by
    rw [decimal, appendDigits_eq (by rw [value]; exact h), value]
    rfl
  have nonzero : negative → (if negative then -(n : Int) else n) ≠ 0 := by
    intro hn
    have := sign hn
    rw [if_pos hn]
    omega
  simp only [ofParts, Option.getD_none, digits]
  rw [if_pos ⟨trivial, trivial, trivial, fits, nonzero⟩]

/-- A text without a minus sign has no sign. -/
theorem scanSign_of_head?_ne {s : List Char} (h : s.head? ≠ some '-') :
    Decimal.scanSign false s = (false, s) := by
  unfold Decimal.scanSign
  split
  · exact absurd rfl h
  · rfl
  · rfl

/-- A numeral does not begin with a sign. -/
theorem head?_ofNat_append_ne {n : Nat} {s : List Char} :
    (Numeral.ofNat n ++ s).head? ≠ some '-' := by
  intro h
  have nonempty := Numeral.ofNat_ne_nil n
  rw [List.head?_append, List.head?_eq_some_head nonempty] at h
  have digit := Numeral.isDigit_of_mem_ofNat (List.head_mem nonempty)
  rw [Option.some.inj h] at digit
  exact absurd digit (by decide)

/-- An integer of 64 bits is read back from its numeral. -/
theorem scan?_ofInt_append {i : Int} {s : List Char} (fits : Fits i) (stop : EndsBefore s) :
    scan? (Numeral.ofInt i ++ s) = some (.int i, s) := by
  cases i with
  | ofNat n =>
    have small : n < UInt64.size := Int.ofNat_lt.1 fits.2
    have number := ofParts_ofNat false small fits.1 nofun
    simp only [scan?, Numeral.ofInt, scanSign_of_head?_ne head?_ofNat_append_ne,
      Option.bind_eq_bind, scanWhole?_append stop, Option.bind_some,
      scanFraction?_of_endsBefore stop, scanExponent?_of_endsBefore stop, number]
    rfl
  | negSucc n =>
    have lower : Int64.minValue.toInt ≤ -((n + 1 : Nat) : Int) := fits.1
    have bound : Int64.minValue.toInt = -9223372036854775808 := by decide
    have small : n + 1 < UInt64.size := by
      have size : UInt64.size = 18446744073709551616 := rfl
      omega
    have number := ofParts_ofNat true small lower fun _ => Nat.succ_ne_zero n
    simp only [scan?, Numeral.ofInt, List.cons_append, Decimal.scanSign, Option.bind_eq_bind,
      scanWhole?_append stop, Option.bind_some, scanFraction?_of_endsBefore stop,
      scanExponent?_of_endsBefore stop, number]
    rfl

end Number

/-! ### Strings -/

/-- An escape of one letter is read as the character it stands for. -/
theorem scanUnits?_escape {c d : Char} (h : unescape? c = some d) (s : List Char) :
    scanUnits? ('\\' :: c :: s) =
      (scanUnits? s).map fun (units, rest) => (d.toNat :: units, rest) := by
  have named : c ≠ 'u' := by
    rintro rfl
    cases h
  rw [scanUnits?, h]
  · cases scanUnits? s <;> rfl
  · rintro _ _ _ _ _ rfl
    exact absurd rfl named

/-- An escape with four digits is read as the unit it names. -/
theorem scanUnits?_unit {n : Nat} (h : n < 0x10000) (s : List Char) :
    scanUnits? ('\\' :: 'u' :: Numeral.hexDigits 4 n ++ s) =
      (scanUnits? s).map fun (units, rest) => (n :: units, rest) := by
  have value : Numeral.ofHex? (Numeral.hexDigits 4 n) = some n := by
    rw [Numeral.ofHex?_hexDigits, Nat.mod_eq_of_lt h]
  obtain ⟨a, b, c, d, digits⟩ : ∃ a b c d, Numeral.hexDigits 4 n = [a, b, c, d] := ⟨_, _, _, _, rfl⟩
  rw [digits] at value ⊢
  simp only [List.cons_append, List.nil_append, scanUnits?, value]
  cases scanUnits? s <;> rfl

/-- A character that needs no escape is read as it is. -/
theorem scanUnits?_cons {c : Char} (quote : c ≠ '"') (backslash : c ≠ '\\') (h : ¬c.toNat < 0x20)
    (s : List Char) :
    scanUnits? (c :: s) = (scanUnits? s).map fun (units, rest) => (c.toNat :: units, rest) := by
  rw [scanUnits?, if_neg (not_or.2 ⟨h, backslash⟩)]
  · exact fun h' => quote h'
  · exact fun _ _ _ _ _ h' _ => backslash h'
  · exact fun _ _ h' _ => backslash h'

/-- A character is read back from its written form. -/
theorem scanUnits?_escapeChar_append (c : Char) (s : List Char) :
    scanUnits? (escapeChar c ++ s) =
      (scanUnits? s).map fun (units, rest) => (c.toNat :: units, rest) := by
  unfold escapeChar
  split
  · next h => rcases h with rfl | rfl <;> exact scanUnits?_escape rfl s
  next quote =>
  split
  · next h => exact h ▸ scanUnits?_escape rfl s
  split
  · next h => exact h ▸ scanUnits?_escape rfl s
  split
  · next h => exact h ▸ scanUnits?_escape rfl s
  split
  · next h => exact h ▸ scanUnits?_escape rfl s
  split
  · next h => exact h ▸ scanUnits?_escape rfl s
  split
  · next control => exact scanUnits?_unit (by omega) s
  · next plain =>
    obtain ⟨noQuote, noBackslash⟩ := not_or.1 quote
    exact scanUnits?_cons noQuote noBackslash plain s

/-- The units of a text are read back from its written form. -/
theorem scanUnits?_append (s rest : List Char) :
    scanUnits? (s.flatMap escapeChar ++ '"' :: rest) = some (s.map Char.toNat, rest) := by
  induction s with
  | nil => rfl
  | cons c s ih =>
    rw [List.flatMap_cons, List.append_assoc, scanUnits?_escapeChar_append, ih]
    rfl

/-- A character is not half of a surrogate pair. -/
theorem not_isSurrogate (c : Char) :
    isHighSurrogate c.toNat = false ∧ isLowSurrogate c.toNat = false := by
  have valid : c.toNat < 0xD800 ∨ 0xDFFF < c.toNat ∧ c.toNat < 0x110000 := c.valid
  constructor
  · rw [isHighSurrogate, Bool.and_eq_false_iff, decide_eq_false_iff_not, decide_eq_false_iff_not]
    omega
  · rw [isLowSurrogate, Bool.and_eq_false_iff, decide_eq_false_iff_not, decide_eq_false_iff_not]
    omega

/-- Characters are no code units of other characters. -/
theorem joinUnits?_map_toNat (s : List Char) : joinUnits? (s.map Char.toNat) = some s := by
  induction s with
  | nil => rfl
  | cons c s ih =>
    obtain ⟨high, low⟩ := not_isSurrogate c
    cases s with
    | nil => simp [joinUnits?, high, low]
    | cons d s =>
      rw [List.map_cons] at ih
      simp [joinUnits?, high, low, ih]

/-- A string is read back from its written form. -/
theorem scanString?_append (s : String) (rest : List Char) :
    scanString? (s.toList.flatMap escapeChar ++ '"' :: rest) = some (.str (some s), rest) := by
  simp only [scanString?, scanUnits?_append, Option.map_some, joinUnits?_map_toNat,
    String.ofList_toList]

/-! ### Tokens -/

namespace Token

/-- Whether a token is a number. -/
def isNumber : Token → Bool
  | .number _ => true
  | _ => false

/-- A token that stands for a value without loss. -/
def IsExact : Token → Prop
  | .number (.int i) => Number.Fits i
  | .number _ => False
  | .str none => False
  | _ => True

/-- A token that is no number begins with a character that is not blank and ends a number. -/
theorem text_eq_cons {t : Token} (h : t.isNumber = false) :
    ∃ c rest, t.text = c :: rest ∧ isBlank c = false ∧ ∀ s, Number.EndsBefore (c :: s) := by
  have ends : ∀ c : Char, (¬c.isDigit ∧ c ≠ '.' ∧ c ≠ 'e' ∧ c ≠ 'E') →
      ∀ s, Number.EndsBefore (c :: s) := by
    intro c hc s d hd
    rwa [← Option.some.inj hd]
  cases t with
  | number n => cases h
  | bool b =>
    cases b with
    | true => exact ⟨_, _, rfl, by decide, ends _ (by decide)⟩
    | false => exact ⟨_, _, rfl, by decide, ends _ (by decide)⟩
  | str o =>
    cases o with
    | some s => exact ⟨_, _, rfl, by decide, ends _ (by decide)⟩
    | none => exact ⟨_, _, rfl, by decide, ends _ (by decide)⟩
  | _ => exact ⟨_, _, rfl, by decide, ends _ (by decide)⟩

end Token

/-- A numeral begins with a minus sign or a digit. -/
theorem ofInt_eq_cons (i : Int) :
    ∃ c rest, Numeral.ofInt i = c :: rest ∧ (c = '-' ∨ c.isDigit) := by
  cases i with
  | ofNat n =>
    obtain ⟨c, rest, h⟩ := List.exists_cons_of_ne_nil (Numeral.ofNat_ne_nil n)
    have digit : c.isDigit := Numeral.isDigit_of_mem_ofNat (by rw [h]; exact List.mem_cons_self)
    exact ⟨c, rest, h, .inr digit⟩
  | negSucc n => exact ⟨_, _, rfl, .inl rfl⟩

/-- A minus sign or a digit is not blank. -/
theorem isBlank_eq_false {c : Char} (h : c = '-' ∨ c.isDigit) : isBlank c = false := by
  cases blank : isBlank c with
  | false => rfl
  | true =>
    simp only [isBlank, Bool.or_eq_true, beq_iff_eq] at blank
    rcases blank with ((rfl | rfl) | rfl) | rfl <;> exact absurd h (by decide)

/-- A token does not begin with a blank character. -/
theorem Token.IsExact.text_eq_cons {t : Token} (h : t.IsExact) :
    ∃ c rest, t.text = c :: rest ∧ isBlank c = false := by
  cases number : t.isNumber with
  | false =>
    obtain ⟨c, rest, text, blank, -⟩ := Token.text_eq_cons number
    exact ⟨c, rest, text, blank⟩
  | true =>
    cases t with
    | number n =>
      cases n with
      | int i =>
        obtain ⟨c, rest, text, first⟩ := ofInt_eq_cons i
        exact ⟨c, rest, text, isBlank_eq_false first⟩
      | real m e => exact h.elim
      | huge => exact h.elim
    | _ => cases number

/-- A number is read where a sign or a digit stands. -/
theorem scanToken?_cons {c : Char} (h : c = '-' ∨ c.isDigit) (s : List Char) :
    scanToken? (c :: s) = (Number.scan? (c :: s)).map fun (n, rest) => (.number n, rest) := by
  unfold scanToken?
  split
  case h_11 => rfl
  all_goals
    next heq =>
    rw [(List.cons.inj heq).1] at h
    exact absurd h (by decide)

/-- An integer of 64 bits is read back as a token. -/
theorem scanToken?_ofInt_append {i : Int} {s : List Char} (fits : Number.Fits i)
    (stop : Number.EndsBefore s) :
    scanToken? (Numeral.ofInt i ++ s) = some (.number (.int i), s) := by
  obtain ⟨c, rest, text, first⟩ := ofInt_eq_cons i
  have read := Number.scan?_ofInt_append fits stop
  rw [text, List.cons_append] at read ⊢
  rw [scanToken?_cons first, read]
  rfl

/-- A token is read back from its text. -/
theorem scanToken?_text_append {t : Token} (h : t.IsExact) {s : List Char}
    (stop : t.isNumber → Number.EndsBefore s) : scanToken? (t.text ++ s) = some (t, s) := by
  cases t with
  | number n =>
    cases n with
    | int i =>
      exact scanToken?_ofInt_append h (stop rfl)
    | real m e => exact h.elim
    | huge => exact h.elim
  | str o =>
    cases o with
    | some text =>
      have same : (Token.str (some text)).text ++ s =
          '"' :: (text.toList.flatMap escapeChar ++ '"' :: s) := List.append_assoc _ ['"'] s
      rw [same]
      exact scanString?_append text s
    | none => exact h.elim
  | bool b => cases b <;> rfl
  | _ => rfl

/-- A token in front of a text is read first. -/
theorem scan?_of_scanToken? {s rest : List Char} {t : Token} {c : Char}
    (h : scanToken? (c :: s) = some (t, rest)) (blank : isBlank c = false) :
    scan? (c :: s) = (scan? rest).map (t :: ·) := by
  rw [scan?]
  simp only [blank, Bool.false_eq_true, ↓reduceIte]
  split
  · next h' => rw [h] at h'; cases h'
  · next h' =>
    rw [h] at h'
    cases h'
    rfl

/-! ### Several tokens -/

/-- Tokens are read back from their text, whatever follows it that a number ends before. -/
def IsReadBack (ts : List Token) : Prop :=
  ∀ s, Number.EndsBefore s → scan? (ts.flatMap Token.text ++ s) = (scan? s).map (ts ++ ·)

/-- No tokens are read back. -/
theorem isReadBack_nil : IsReadBack [] := by
  intro s _
  cases h : scan? s <;> simp [h]

/-- A token is read back and then those after it. -/
theorem isReadBack_cons {t : Token} {ts : List Token} (exact : t.IsExact)
    (apart : t.isNumber → ∀ t' ∈ ts.head?, t'.isNumber = false) (h : IsReadBack ts) :
    IsReadBack (t :: ts) := by
  intro s stop
  have later : t.isNumber → Number.EndsBefore (ts.flatMap Token.text ++ s) := by
    intro number
    cases ts with
    | nil => exact stop
    | cons t' ts =>
      obtain ⟨c, rest, text, -, ends⟩ := Token.text_eq_cons (apart number t' rfl)
      rw [List.flatMap_cons, text, List.append_assoc, List.cons_append]
      exact ends _
  obtain ⟨c, rest, text, blank⟩ := exact.text_eq_cons
  have read := scanToken?_text_append exact later
  rw [text, List.cons_append] at read
  rw [List.flatMap_cons, List.append_assoc, text, List.cons_append, scan?_of_scanToken? read blank,
    h s stop, Option.map_map]
  rfl

/-- Tokens are read back and then those after them. -/
theorem IsReadBack.append {ts us : List Token} (h : IsReadBack ts) (h' : IsReadBack us)
    (apart : ∀ t ∈ us.head?, t.isNumber = false) : IsReadBack (ts ++ us) := by
  intro s stop
  have later : Number.EndsBefore (us.flatMap Token.text ++ s) := by
    cases us with
    | nil => exact stop
    | cons t us =>
      obtain ⟨c, rest, text, -, ends⟩ := Token.text_eq_cons (apart t rfl)
      rw [List.flatMap_cons, text, List.append_assoc, List.cons_append]
      exact ends _
  rw [List.flatMap_append, List.append_assoc, h _ later, h' s stop, Option.map_map]
  congr 1
  funext l
  exact (List.append_assoc ts us l).symm

end Json

end Mediatheque

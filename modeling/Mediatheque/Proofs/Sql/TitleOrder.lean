import Mediatheque.Proofs.Sql.Ordering

/-!
# Rows in the order of titles

Titles are compared without the blanks around them. A database that sorts by titles drops spaces
only, so a tab or a no-break space at an end of a title stays there, and counts. A record has its
place among the others exactly if the blanks around its title are spaces (`compareRows?_title_iff`):
whatever other blank is kept, the title is no longer the same as the one without it, since every
character is left over in lower case, as one character or more.
-/

namespace Mediatheque

open Std

/-! ### Text without its ends -/

namespace Text

variable {p : Char → Bool} {s m : List Char}

/-- The text without the characters at its ends that have a property. -/
def strip (p : Char → Bool) (s : List Char) : List Char := (s.dropWhile p).rdropWhile p

theorem trim_eq_strip (s : List Char) : trim s = strip isBlank s := rfl

theorem trimSpaces_eq_strip (s : List Char) : trimSpaces s = strip (· == ' ') s := rfl

/-- A text neither begins nor ends with a character that has a property. -/
structure IsTight (p : Char → Bool) (m : List Char) : Prop where
  /-- The first character does not have it. -/
  first : ∀ c ∈ m.head?, p c = false
  /-- The last character does not have it. -/
  last : ∀ c ∈ m.getLast?, p c = false

/-- Characters with a property at the end do not matter. -/
theorem rdropWhile_append_of_all {y : List Char} (hy : ∀ c ∈ y, p c) :
    (m ++ y).rdropWhile p = m.rdropWhile p := by
  rw [List.rdropWhile, List.reverse_append, List.dropWhile_append_of_pos, List.rdropWhile]
  simpa using hy

/-- What is left of a text is told by what it is: the text has nothing else but characters with the
property before it and after it, and it neither begins nor ends with one. -/
theorem strip_eq_iff :
    strip p s = m ↔
      (∃ x y, s = x ++ m ++ y ∧ (∀ c ∈ x, p c) ∧ ∀ c ∈ y, p c) ∧ IsTight p m := by
  constructor
  · rintro rfl
    refine ⟨⟨s.takeWhile p, (s.dropWhile p).rtakeWhile p, ?_, ?_, ?_⟩, ?_, ?_⟩
    · rw [List.append_assoc, strip, List.rdropWhile_append_rtakeWhile,
        List.takeWhile_append_dropWhile]
    · exact fun c hc => List.mem_takeWhile_imp hc
    · exact fun c hc => List.mem_rtakeWhile_imp hc
    · intro c hc
      obtain ⟨y, hy⟩ := List.rdropWhile_prefix p (s.dropWhile p)
      have first := List.head?_dropWhile_not p s
      have begins : ((s.dropWhile p).rdropWhile p).head? = some c := hc
      rw [← hy, List.head?_append, begins] at first
      exact first
    · intro c hc
      obtain ⟨nonempty, rfl⟩ := List.mem_getLast?_eq_getLast hc
      exact Bool.eq_false_iff.2 (List.rdropWhile_last_not p _ nonempty)
  · rintro ⟨⟨x, y, rfl, hx, hy⟩, tight⟩
    rw [strip, List.append_assoc, List.dropWhile_append_of_pos hx]
    cases m with
    | nil => rw [List.nil_append, List.dropWhile_eq_nil_iff.2 hy, List.rdropWhile_nil]
    | cons c m =>
      have first : p c = false := tight.first c rfl
      rw [List.cons_append, List.dropWhile_cons_of_neg (by simp [first]), ← List.cons_append,
        rdropWhile_append_of_all hy, List.rdropWhile_eq_self_iff]
      intro nonempty
      exact Bool.eq_false_iff.1 (tight.last _ (List.getLast?_eq_some_getLast nonempty))

/-- What is left without blanks neither begins nor ends with one. -/
theorem isTight_trim (s : List Char) : IsTight isBlank (trim s) :=
  (strip_eq_iff.1 (trim_eq_strip s).symm).2

/-- What neither begins nor ends with some characters does not do so with fewer ones. -/
theorem IsTight.mono {q : Char → Bool} (h : IsTight p m) (hpq : ∀ c, q c → p c) : IsTight q m where
  first c hc := Bool.eq_false_iff.2 fun hq => Bool.eq_false_iff.1 (h.first c hc) (hpq c hq)
  last c hc := Bool.eq_false_iff.2 fun hq => Bool.eq_false_iff.1 (h.last c hc) (hpq c hq)

/-- A space is blank. -/
theorem isBlank_of_eq_space (c : Char) (h : c == ' ') : isBlank c := by
  rw [eq_of_beq h]
  rfl

/-- The blanks around a text are spaces. -/
def HasOnlySpacesAround (s : List Char) : Prop :=
  ∃ x m y, s = x ++ m ++ y ∧ (∀ c ∈ x, c = ' ') ∧ (∀ c ∈ y, c = ' ') ∧ IsTight isBlank m

/-- To drop the spaces is to drop the blanks just where there are no other blanks. -/
theorem trimSpaces_eq_trim_iff : trimSpaces s = trim s ↔ HasOnlySpacesAround s := by
  rw [trim_eq_strip, trimSpaces_eq_strip]
  constructor
  · intro same
    obtain ⟨⟨x, y, hs, hx, hy⟩, -⟩ := strip_eq_iff.1 same
    exact ⟨x, _, y, hs, by simpa using hx, by simpa using hy, isTight_trim s⟩
  · rintro ⟨x, m, y, rfl, hx, hy, tight⟩
    have spaces : strip (· == ' ') (x ++ m ++ y) = m :=
      strip_eq_iff.2 ⟨⟨x, y, rfl, by simpa using hx, by simpa using hy⟩,
        tight.mono isBlank_of_eq_space⟩
    have blanks : strip isBlank (x ++ m ++ y) = m :=
      strip_eq_iff.2 ⟨⟨x, y, rfl, fun c hc => hx c hc ▸ rfl, fun c hc => hy c hc ▸ rfl⟩, tight⟩
    rw [spaces, blanks]

/-- Without spaces around it, a text still has the other blanks around what is left without any. -/
theorem exists_trimSpaces_eq_append (s : List Char) : ∃ x y, trimSpaces s = x ++ trim s ++ y := by
  obtain ⟨⟨x, y, hs, hx, hy⟩, -⟩ := strip_eq_iff.1 (trimSpaces_eq_strip s).symm
  obtain ⟨⟨x', y', hm, hx', hy'⟩, tight⟩ := strip_eq_iff.1 (trim_eq_strip (trimSpaces s)).symm
  have same : trim s = trim (trimSpaces s) := by
    refine strip_eq_iff.2 ⟨⟨x ++ x', y' ++ y, ?_, ?_, ?_⟩, tight⟩
    · calc s = x ++ trimSpaces s ++ y := hs
        _ = x ++ (x' ++ trim (trimSpaces s) ++ y') ++ y := by rw [← hm]
        _ = x ++ x' ++ trim (trimSpaces s) ++ (y' ++ y) := by simp only [List.append_assoc]
    · exact List.forall_mem_append.2 ⟨fun c hc => isBlank_of_eq_space c (hx c hc), hx'⟩
    · exact List.forall_mem_append.2 ⟨hy', fun c hc => isBlank_of_eq_space c (hy c hc)⟩
  exact ⟨x', y', same ▸ hm⟩

/-! ### Lower case -/

/-- Every character is left over in lower case. -/
theorem length_lowerChar_pos (c : Char) : 0 < (lowerChar c).length := by
  rw [lowerChar]
  split
  · exact Nat.two_pos
  · split <;> exact Nat.one_pos

/-- Whatever becomes of a sigma, it is one character, as by itself; so a text in lower case is as
long as its characters are by themselves. -/
theorem length_lowerAfter (before s : List Char) :
    (lowerAfter before s).length = (s.flatMap lowerChar).length := by
  induction s generalizing before with
  | nil => rfl
  | cons c s ih =>
    rw [lowerAfter, List.length_append, ih, List.flatMap_cons, List.length_append]
    split
    · next sigma => rw [sigma]; rfl
    · rfl

theorem length_lower_append (s t : List Char) :
    (lower (s ++ t)).length = (lower s).length + (lower t).length := by
  simp only [lower, length_lowerAfter, List.flatMap_append, List.length_append]

/-- No character is lost in lower case. -/
theorem length_le_length_lower (s : List Char) : s.length ≤ (lower s).length := by
  rw [lower, length_lowerAfter]
  induction s with
  | nil => exact Nat.le_refl _
  | cons c s ih =>
    have := length_lowerChar_pos c
    rw [List.length_cons, List.flatMap_cons, List.length_append]
    omega

/-- A text with something around it is not the same without it, in lower case either. -/
theorem eq_nil_of_lower_append_eq {x m y : List Char} (h : lower (x ++ m ++ y) = lower m) :
    x = [] ∧ y = [] := by
  have lengths := congrArg List.length h
  have hx := length_le_length_lower x
  have hy := length_le_length_lower y
  rw [length_lower_append, length_lower_append] at lengths
  exact ⟨List.eq_nil_of_length_eq_zero (by omega), List.eq_nil_of_length_eq_zero (by omega)⟩

/-- In lower case too, a text without spaces around it is the text without blanks around it just if
all of these are spaces. -/
theorem lower_trimSpaces_eq_iff :
    lower (trimSpaces s) = lower (trim s) ↔ HasOnlySpacesAround s := by
  rw [← trimSpaces_eq_trim_iff]
  refine ⟨fun h => ?_, congrArg lower⟩
  obtain ⟨x, y, hs⟩ := exists_trimSpaces_eq_append s
  rw [hs] at h ⊢
  obtain ⟨rfl, rfl⟩ := eq_nil_of_lower_append_eq h
  rw [List.nil_append, List.append_nil]

/-- Without blanks around it, a text has no spaces around it either. -/
theorem hasOnlySpacesAround_trim (s : List Char) : HasOnlySpacesAround (trim s) :=
  ⟨[], trim s, [], by simp, List.forall_mem_nil _, List.forall_mem_nil _, isTight_trim s⟩

/-- There are no blanks left to drop. -/
theorem trim_trim (s : List Char) : trim (trim s) = trim s :=
  strip_eq_iff.2 ⟨⟨[], [], by simp, List.forall_mem_nil _, List.forall_mem_nil _⟩, isTight_trim s⟩

end Text

/-! ### Titles -/

/-- What ties in one direction ties in the other. -/
theorem SortDirection.apply_eq_eq_iff {d : SortDirection} {o : Ordering} :
    d.apply o = .eq ↔ o = .eq := by
  cases d <;> cases o <;> decide

namespace Sql

/-- A title as a database sorts it: without the spaces around it, and in lower case. -/
def sortedTitle (title : String) : String :=
  String.ofList (Text.lower (Text.trimSpaces title.toList))

/-- A title is sorted as it is compared just if the blanks around it are spaces. -/
theorem sortedTitle_eq_titleKey_iff {title : String} :
    sortedTitle title = titleKey title ↔ Text.HasOnlySpacesAround title.toList := by
  rw [sortedTitle, titleKey, String.ofList_inj, Text.lower_trimSpaces_eq_iff]

variable {a b : MediaRecord} {row row' : TableRow}

/-- Rows compare by titles as they are sorted. -/
theorem compareRows?_title_eq (hrow : row.Represents a) (hrow' : row'.Represents b)
    (d : SortDirection) :
    compareRows? d row row' (SortExpression.ofKey .title) =
      some (d.apply (compare (sortedTitle a.title) (sortedTitle b.title))) := by
  have value : ∀ {row : TableRow} {r : MediaRecord}, row.Represents r →
      SortExpression.value? row (.data .text) (.lower (.trimmed (.column .title))) =
        some (some (sortedTitle r.title)) := by
    intro row r h
    rw [SortExpression.value?, SortExpression.value?, SortExpression.value?, TableRow.column?,
      h.title]
    simp only [Option.map_some, String.toList_ofList, sortedTitle]
  refine (compareRows?_cons rfl (value hrow) (value hrow') rfl).trans (congrArg some ?_)
  rw [Ordering.then_eq, compareNullsLast_eq_compareMissingLast]
  rfl

/-- **A row is sorted by title as its record is compared by it exactly if the blanks around the
title are spaces.** The term of the order, which is as it is written here, then agrees in the given
direction with the comparison of the records, among all titles that have only spaces around them.
Any other blank at an end of the title, such as a tab or a no-break space, has the row sorted
elsewhere among them. -/
theorem compareRows?_title_iff (hrow : row.Represents a) (d : SortDirection) :
    termText ⟨.title, d⟩ = "LOWER(BTRIM(title)) " ++ d.keyword ++ " NULLS LAST, " ∧
    ((∀ (b : MediaRecord) (row' : TableRow), row'.Represents b →
        Text.HasOnlySpacesAround b.title.toList →
        compareRows? d row row' (SortExpression.ofKey .title) =
          some (SortTerm.compare ⟨.title, d⟩ a b)) ↔
      Text.HasOnlySpacesAround a.title.toList) := by
  refine ⟨by cases d <;> decide +kernel, fun agrees => ?_, fun ha b row' hrow' hb => ?_⟩
  · -- the record itself, without the blanks around its title, ties with it
    let b : MediaRecord := { a with title := String.ofList (Text.trim a.title.toList) }
    have bare : b.title.toList = Text.trim a.title.toList := String.toList_ofList
    have onlySpaces : Text.HasOnlySpacesAround b.title.toList :=
      bare ▸ Text.hasOnlySpacesAround_trim a.title.toList
    have ties : titleKey b.title = titleKey a.title := by
      rw [titleKey, bare, Text.trim_trim, titleKey]
    have same := agrees b (tableRowOf b) (represents_tableRowOf b) onlySpaces
    rw [compareRows?_title_eq hrow (represents_tableRowOf b), Option.some.injEq] at same
    have comparedEqual : SortTerm.compare ⟨.title, d⟩ a b = .eq := by
      show d.apply (compare (titleKey a.title) (titleKey b.title)) = .eq
      rw [ties, SortDirection.apply_eq_eq_iff]
      exact ReflCmp.compare_self
    rw [comparedEqual, SortDirection.apply_eq_eq_iff] at same
    refine sortedTitle_eq_titleKey_iff.1 ?_
    calc sortedTitle a.title = sortedTitle b.title := LawfulEqOrd.eq_of_compare same
      _ = titleKey b.title := sortedTitle_eq_titleKey_iff.2 onlySpaces
      _ = titleKey a.title := ties
  · rw [compareRows?_title_eq hrow hrow', sortedTitle_eq_titleKey_iff.2 ha,
      sortedTitle_eq_titleKey_iff.2 hb]
    rfl

/-- Spaces around a title make no difference, and capital letters make none. -/
theorem compareRows?_title_spaces :
    let added : Instant := ⟨⟨2020, 2, 29, by decide, by decide⟩, 0, 0, by decide, by decide⟩
    let spaced := MediaRecord.blank ⟨⟨1⟩⟩ "  Alien " .movie added
    let plain := MediaRecord.blank ⟨⟨2⟩⟩ "ALIEN" .movie added
    (tableRowOf spaced).Represents spaced ∧
      compareRows? .descending (tableRowOf spaced) (tableRowOf plain)
        (SortExpression.ofKey .title) = some .eq := by
  intro added spaced plain
  have row : (tableRowOf spaced).Represents spaced := represents_tableRowOf spaced
  have onlySpaces : Text.HasOnlySpacesAround spaced.title.toList :=
    Text.trimSpaces_eq_trim_iff.1 (by decide +kernel)
  have bare : Text.HasOnlySpacesAround plain.title.toList :=
    Text.trimSpaces_eq_trim_iff.1 (by decide +kernel)
  have agrees := (compareRows?_title_iff row .descending).2.2 onlySpaces
  refine ⟨row, ?_⟩
  rw [agrees plain _ (represents_tableRowOf plain) bare]
  decide +kernel

/-- A no-break space before a title makes a difference: the record comes before another one, and its
row after the other one's. -/
theorem compareRows?_title_noBreakSpace :
    let added : Instant := ⟨⟨2020, 2, 29, by decide, by decide⟩, 0, 0, by decide, by decide⟩
    let spaced := MediaRecord.blank ⟨⟨1⟩⟩ "\u00a0Alien" .movie added
    let other := MediaRecord.blank ⟨⟨2⟩⟩ "Blade Runner" .movie added
    (tableRowOf spaced).Represents spaced ∧ (tableRowOf other).Represents other ∧
      SortTerm.compare ⟨.title, .ascending⟩ spaced other = .lt ∧
      compareRows? .ascending (tableRowOf spaced) (tableRowOf other)
        (SortExpression.ofKey .title) = some .gt := by
  intro added spaced other
  have rowSpaced : (tableRowOf spaced).Represents spaced := represents_tableRowOf spaced
  have rowOther : (tableRowOf other).Represents other := represents_tableRowOf other
  refine ⟨rowSpaced, rowOther, by decide +kernel, ?_⟩
  rw [compareRows?_title_eq rowSpaced rowOther]
  decide +kernel

end Sql

end Mediatheque

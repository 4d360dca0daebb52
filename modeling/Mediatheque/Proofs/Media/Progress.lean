import Mediatheque.Media.Record

/-!
# Progress is read back

Progress is told by its text and by its stored numbers alike: both are read back as what was
written (`ofText?_toText`, `ofNumbers_toFields`), so a record has the progress that it was given
(`progress_withProgress`).
-/

namespace Mediatheque

namespace Ordinal

/-- An ordinal is stored as the number that it is. -/
theorem toInt_toInt (o : Ordinal) : o.toInt.toInt = o.number.toNat :=
  Int64.toInt_ofNat_of_lt (by have := o.number.toNat_lt; omega)

@[simp] theorem ofInt?_toInt (o : Ordinal) : ofInt? o.toInt = some o := by
  have small := o.number.toNat_lt
  have size : UInt32.size = 4294967296 := rfl
  have same : UInt32.ofNat (min o.toInt.toInt.toNat (UInt32.size - 1)) = o.number := by
    rw [toInt_toInt, Int.toNat_natCast, Nat.min_eq_left (by omega), UInt32.ofNat_toNat]
  simp only [ofInt?, same, o.pos, ↓reduceDIte]

/-- No ordinal is beyond 32 bits where it is stored. -/
theorem toInt_le (o : Ordinal) : o.toInt.toInt ≤ 4294967295 := by
  have small := o.number.toNat_lt
  rw [toInt_toInt]
  omega

/-- There is no ordinal for numbers that are not positive. -/
theorem ofInt?_eq_none {i : Int64} (h : ¬0 < i) : ofInt? i = none := by
  rw [Int64.lt_iff_toInt_lt] at h
  rw [← Option.not_isSome_iff_eq_none, isSome_ofInt?]
  exact h

/-- The ordinal for a positive number is stored as the number, if there are ordinals as large. -/
theorem exists_ofInt?_eq_some {i : Int64} (pos : 0 < i) (small : i.toInt ≤ 4294967295) :
    ∃ o, ofInt? i = some o ∧ o.toInt = i := by
  replace pos : 0 < i.toInt := Int64.lt_iff_toInt_lt.1 pos
  obtain ⟨o, ho⟩ := Option.isSome_iff_exists.1 ((isSome_ofInt? i).2 pos)
  refine ⟨o, ho, Int64.toInt_inj.1 ?_⟩
  rw [toInt_toInt]
  have size : UInt32.size = 4294967296 := rfl
  have number : (UInt32.ofNat (min i.toInt.toNat (UInt32.size - 1))).toNat = i.toInt.toNat :=
    (UInt32.toNat_ofNat_of_lt (by omega)).trans (by omega)
  simp only [ofInt?] at ho
  split at ho
  · cases ho
    exact (congrArg Int.ofNat number).trans (Int.toNat_of_nonneg (by omega))
  · cases ho

end Ordinal

namespace Progress

/-! ### Stored numbers -/

/-- Progress is read back from the numbers under which it is stored. -/
theorem ofNumbers_toFields (p : Progress) : ofNumbers p.toFields.1 p.toFields.2 = p := by
  cases p with
  | nothing => rfl
  | season s => simp [toFields, ofNumbers]
  | episode s e => simp [toFields, ofNumbers]

/-! ### Text -/

/-- The part before the first comma ends there. -/
theorem splitAtCommas_append {word : List Char} (h : ',' ∉ word) (rest : List Char) :
    splitAtCommas (word ++ ',' :: rest) = word :: splitAtCommas rest := by
  induction word with
  | nil => rfl
  | cons c word ih =>
    obtain ⟨hc, hword⟩ := not_or.1 (mt List.mem_cons.2 h)
    rw [List.cons_append, splitAtCommas, ih hword]
    · exact fun hc' => hc hc'.symm

/-- A text without a comma is one part. -/
theorem splitAtCommas_of_not_mem {word : List Char} (h : ',' ∉ word) :
    splitAtCommas word = [word] := by
  induction word with
  | nil => rfl
  | cons c word ih =>
    obtain ⟨hc, hword⟩ := not_or.1 (mt List.mem_cons.2 h)
    rw [splitAtCommas, ih hword]
    · exact fun hc' => hc hc'.symm

/-- There is no comma in a numeral. -/
theorem comma_not_mem_ofNat (n : Nat) : ',' ∉ Numeral.ofNat n := by
  intro h
  exact absurd (Numeral.isDigit_of_mem_ofNat h) (by decide)

/-- The number of an ordinal is read as the number under which it is stored. -/
@[simp] theorem number?_ofNat (o : Ordinal) :
    number? (Numeral.ofNat o.number.toNat) = some o.toInt := by
  have small : o.number.toNat < UInt32.size := o.number.toNat_lt
  simp [number?, small, Ordinal.toInt]

/-- Progress is read back from its text. -/
theorem ofText?_toText (p : Progress) : ofText? p.toText = some p := by
  cases p with
  | nothing => decide
  | season s =>
    have parts : splitAtCommas (season s).toText =
        [seasonWord, Numeral.ofNat s.number.toNat] := by
      rw [toText, splitAtCommas_append (by decide),
        splitAtCommas_of_not_mem (comma_not_mem_ofNat _)]
    simp [ofText?, parts, ofNumbers]
  | episode s e =>
    have parts : splitAtCommas (episode s e).toText =
        [episodeWord, Numeral.ofNat s.number.toNat, Numeral.ofNat e.number.toNat] := by
      rw [toText, List.append_assoc, List.cons_append, splitAtCommas_append (by decide),
        splitAtCommas_append (comma_not_mem_ofNat _),
        splitAtCommas_of_not_mem (comma_not_mem_ofNat _)]
    simp [ofText?, parts, ofNumbers]

end Progress

namespace MediaRecord

/-! ### Records -/

/-- A record has the progress that it was given. -/
@[simp] theorem progress_withProgress (r : MediaRecord) (p : Option Progress) :
    (r.withProgress p).progress = p := by
  cases p with
  | none => rfl
  | some p => exact congrArg some p.ofNumbers_toFields

/-- The text of a record's progress tells the progress. -/
theorem storedProgress_progressText (r : MediaRecord) :
    storedProgress r.progressText = r.progress := by
  rw [storedProgress, progressText]
  cases r.progress with
  | none => rfl
  | some p => simp [Progress.ofText?_toText]

/-- To restore a record from its own text is to give it its own progress. -/
theorem restoreProgress_progressText (r : MediaRecord) :
    r.restoreProgress r.progressText = r.withProgress r.progress := by
  rw [restoreProgress, storedProgress_progressText]

end MediaRecord

end Mediatheque

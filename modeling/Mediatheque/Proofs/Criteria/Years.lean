import Mediatheque.Proofs.Criteria.Acceptance

/-!
# Ranges of years

A range of years selects what was released in one of its years (`selects_year_iff`). The calendar
has fewer years than 32 bits can number. A range that overlaps with it, or ends right before it, is
cut down to the years it has; but of a range that is farther out neither bound is on the calendar,
so both sides are left open and everything with a date is selected.
-/

namespace Mediatheque

namespace Criteria

/-- The criteria that ask only for a release within some years. -/
def ofYears (years : Interval Int32) : Criteria := { unrestricted with year := some years }

/-- A range of years is one clause, and needs no refinement. -/
theorem selects_ofYears (today : Date) (policy : SeasonPolicy) (years : Interval Int32)
    (r : MediaRecord) :
    ((ofYears years).select today policy).selects r = (yearClause years).holds r :=
  Bool.and_true _

/-- No bound of the range is on the calendar, nor on the day right after its last year. -/
def IsFarOut (years : Interval Int32) : Prop :=
  years.high.toInt + 1 < firstYear ∨ lastYear < years.low.toInt

/-- In order, the two bounds leave both sides open exactly far out, and otherwise a year of the
calendar is within the bounds that count if it is within the range. -/
theorem boundsOnCalendar_iff {years : Interval Int32} (ordered : years.low ≤ years.high)
    {year : Int} (h : OnCalendar year) :
    ((OnCalendar years.low.toInt → years.low.toInt ≤ year) ∧
        (OnCalendar (years.high.toInt + 1) → year ≤ years.high.toInt)) ↔
      (years.low.toInt ≤ year ∧ year ≤ years.high.toInt) ∨ IsFarOut years := by
  have ordered := Int32.le_iff_toInt_le.1 ordered
  simp only [OnCalendar, IsFarOut] at *
  omega

/-- Of the records with a known date a range of years selects those of its years, and all of them
if it is far from the calendar. -/
theorem selects_year_iff {years : Interval Int32} (ordered : years.low ≤ years.high) (today : Date)
    (policy : SeasonPolicy) (r : MediaRecord) :
    ((ofYears years).select today policy).selects r ↔
      ∃ d, r.releaseDate = some d ∧
        ((years.low.toInt ≤ d.year ∧ d.year ≤ years.high.toInt) ∨ IsFarOut years) := by
  rw [selects_ofYears, holds_yearClause_iff]
  exact exists_congr fun d => and_congr_right fun _ => boundsOnCalendar_iff ordered d.year_mem

/-- A movie of which nothing but the date of its release is known, added right then. -/
def released (moment : Instant) : MediaRecord :=
  { MediaRecord.blank ⟨⟨1⟩⟩ "Stalker" .movie moment with releaseDate := some moment.date }

/-- On the last day of the calendar, a range that begins before it and ends after it. -/
theorem selects_ofYears_lastDay :
    let years : Interval Int32 := ⟨262142, 262143⟩
    let today : Date := ⟨2024, 6, 1, by decide, by decide⟩
    let r := released ⟨⟨262142, 12, 31, by decide, by decide⟩, 0, 0, by decide, by decide⟩
    years.low ≤ years.high ∧ ((ofYears years).select today .strict).selects r := by
  intro years today r
  have ordered : years.low ≤ years.high := by decide
  exact ⟨ordered, (selects_year_iff ordered today .strict r).2
    ⟨_, rfl, .inl ⟨by decide, by decide⟩⟩⟩

/-- Among the years that the calendar does not have, a range selects what was released long before
it. -/
theorem selects_ofYears_farOut :
    let years : Interval Int32 := ⟨300000, 300001⟩
    let today : Date := ⟨2024, 6, 1, by decide, by decide⟩
    let r := released ⟨⟨1979, 5, 25, by decide, by decide⟩, 0, 0, by decide, by decide⟩
    years.low ≤ years.high ∧ ((ofYears years).select today .strict).selects r ∧
      ¬∃ d, r.releaseDate = some d ∧ years.low.toInt ≤ d.year ∧ d.year ≤ years.high.toInt := by
  intro years today r
  refine ⟨by decide, by decide, ?_⟩
  rintro ⟨d, released, low, -⟩
  cases released
  exact absurd low (by decide)

end Criteria

end Mediatheque

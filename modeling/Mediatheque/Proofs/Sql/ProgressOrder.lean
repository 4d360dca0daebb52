import Mediatheque.Proofs.Media.Progress
import Mediatheque.Proofs.Sql.Ordering

/-!
# Rows in the order of progress

A database sorts by progress on two numbers that it works out of the stored ones, and it comes to
the order of records (`compareRows?_progress`): with movies among shows, with progress that is
unknown, and with old numbers that are zero or negative. Two things have to go together. The end of
a season has a number beyond all episodes on both sides, though not the same one; and a database
leaves a stored number as it is where progress has the ordinal for it. That is the same number
unless it is too large for an ordinal, and no such number is ever written
(`hasOrdinaryProgress_withProgress`).
-/

namespace Mediatheque

open Std

/-! ### Numbers to sort by -/

namespace Progress

/-- The episode under which a database sorts progress: the end of a season has the largest number
that there is. -/
def sortedEpisode : Progress → Int64
  | .nothing => 0
  | .season _ => Int64.maxValue
  | .episode _ e => e.toInt

/-- The stored season is the season by which progress compares. -/
theorem toInt_toFields (p : Progress) : p.toFields.1.toInt = p.seasonRank := by
  cases p with
  | nothing => rfl
  | season s => exact s.toInt_toInt
  | episode s e => exact s.toInt_toInt

/-- The episodes by which progress is compared and sorted are the same number, or both are beyond
all episodes. -/
theorem sortedEpisode_spec (p : Progress) :
    p.episodeRank < 4294967296 ∧ p.sortedEpisode.toInt = p.episodeRank ∨
      p.episodeRank = 18446744073709551615 ∧ p.sortedEpisode.toInt = 9223372036854775807 := by
  cases p with
  | nothing => exact .inl ⟨by decide, rfl⟩
  | season s => exact .inr ⟨rfl, rfl⟩
  | episode s e => exact .inl ⟨e.number.toNat_lt, e.toInt_toInt⟩

/-- The season of the progress that stored numbers tell is the stored one, or none if that is not
positive. -/
theorem season_ofNumbers {n : Int64} (small : n.toInt ≤ 4294967295) (m : Option Int64) :
    (ofNumbers n m).toFields.1 = if 0 < n then n else 0 := by
  split
  · next pos =>
    obtain ⟨s, hs, rfl⟩ := Ordinal.exists_ofInt?_eq_some pos small
    rw [ofNumbers, hs]
    cases m.bind Ordinal.ofInt? with
    | none => rfl
    | some e => rfl
  · next pos =>
    have none := Ordinal.ofInt?_eq_none pos
    rw [ofNumbers, none]
    rfl

/-- The episode by which a database sorts the progress that stored numbers tell is the stored one,
or the end of the season if that is not known to be positive. -/
theorem sortedEpisode_ofNumbers {n : Int64} (small : n.toInt ≤ 4294967295) {m : Option Int64}
    (smallEpisode : ∀ i, m = some i → i.toInt ≤ 4294967295) :
    (ofNumbers n m).sortedEpisode =
      if 0 < n then (m.filter (0 < ·)).getD Int64.maxValue else 0 := by
  split
  · next pos =>
    obtain ⟨s, hs, -⟩ := Ordinal.exists_ofInt?_eq_some pos small
    rw [ofNumbers, hs]
    cases m with
    | none => rfl
    | some i =>
      by_cases ipos : 0 < i
      · obtain ⟨e, he, rfl⟩ := Ordinal.exists_ofInt?_eq_some ipos (smallEpisode i rfl)
        simp [Option.filter, ipos, he, sortedEpisode]
      · have none := Ordinal.ofInt?_eq_none ipos
        simp [Option.filter, ipos, none, sortedEpisode]
  · next pos =>
    have none := Ordinal.ofInt?_eq_none pos
    rw [ofNumbers, none]
    rfl

/-- Integers compare as numbers that are in the same order. -/
theorem compare_int64_eq {a b : Int64} {m n : Nat} (lt : a.toInt < b.toInt ↔ m < n)
    (eq : a.toInt = b.toInt ↔ m = n) : compare a b = compare m n := by
  show compareOfLessAndEq a b = compareOfLessAndEq m n
  simp only [compareOfLessAndEq, Int64.lt_iff_toInt_lt, ← Int64.toInt_inj, lt, eq]

/-- Progress compares as the numbers do under which a database sorts it. -/
theorem compare_eq_sorted (p q : Progress) :
    compare p q =
      (compare p.toFields.1 q.toFields.1).then (compare p.sortedEpisode q.sortedEpisode) := by
  show (compare p.seasonRank q.seasonRank).then (compare p.episodeRank q.episodeRank) = _
  have seasons : compare p.toFields.1 q.toFields.1 = compare p.seasonRank q.seasonRank := by
    rw [compare_int64_eq] <;> rw [toInt_toFields, toInt_toFields] <;> omega
  have episodes : compare p.sortedEpisode q.sortedEpisode =
      compare p.episodeRank q.episodeRank := by
    have hp := p.sortedEpisode_spec
    have hq := q.sortedEpisode_spec
    apply compare_int64_eq <;> omega
  rw [seasons, episodes]

end Progress

namespace MediaRecord

/-- The stored numbers of the progress are absent, or no larger than the numbers of seasons and
episodes can be. They may be zero or negative. -/
structure HasOrdinaryProgress (r : MediaRecord) : Prop where
  /-- The season is. -/
  season : ∀ n, r.lastSeason = some n → n.toInt ≤ 4294967295
  /-- The episode is. -/
  episode : ∀ n, r.lastEpisode = some n → n.toInt ≤ 4294967295

/-- Whatever progress a record is given, it is ordinary. -/
theorem hasOrdinaryProgress_withProgress (r : MediaRecord) (p : Option Progress) :
    (r.withProgress p).HasOrdinaryProgress := by
  constructor
  · intro n hn
    obtain ⟨p, -, rfl⟩ := Option.map_eq_some_iff.1 hn
    cases p with
    | nothing => exact (by decide : (0 : Int64).toInt ≤ 4294967295)
    | season s => exact s.toInt_le
    | episode s e => exact s.toInt_le
  · intro n hn
    obtain ⟨p, -, hp⟩ := Option.bind_eq_some_iff.1 hn
    cases p with
    | nothing => cases hp
    | season s => cases hp
    | episode s e => cases hp; exact e.toInt_le

end MediaRecord

/-! ### The values that are sorted by -/

namespace Sql

variable {row : TableRow} {r : MediaRecord}

namespace TableRow.Represents

theorem column?_watched (h : row.Represents r) :
    row.column? (.data .bool) (.field .watched) = some r.watched :=
  (h.column?_field .watched rfl).trans (by cases r.watched <;> rfl)

theorem column?_lastSeason (h : row.Represents r) :
    row.column? (.data .int8) (.field .lastSeason) = some r.lastSeason :=
  (h.column?_field .lastSeason rfl).trans (by cases r.lastSeason <;> rfl)

theorem column?_lastEpisode (h : row.Represents r) :
    row.column? (.data .int8) (.field .lastEpisode) = some r.lastEpisode :=
  (h.column?_field .lastEpisode rfl).trans (by cases r.lastEpisode <;> rfl)

/-- The test for movies tells movies. -/
theorem truth?_isMovie (h : row.Represents r) :
    SortExpression.isMovie.truth? row = some (.ofBool r.isMovie) := by
  have kind : row.column? (.data .text) (.field .kind) = some (some (Named.name r.kind)) :=
    h.column?_field .kind rfl
  rw [SortExpression.isMovie, Test.truth?, kind, MediaRecord.isMovie]
  cases r.kind with
  | movie => rfl
  | series => rfl

theorem truth?_isTrue_watched (h : row.Represents r) :
    (Test.isTrue (.field .watched)).truth? row = some (.ofOption id r.watched) := by
  rw [Test.truth?, h.column?_watched, Option.map_some]

theorem truth?_isPositive_lastSeason (h : row.Represents r) :
    (Test.isPositive (.field .lastSeason)).truth? row = some (.ofOption (0 < ·) r.lastSeason) := by
  rw [Test.truth?, h.column?_lastSeason, Option.map_some]

theorem truth?_isKnown_lastSeason (h : row.Represents r) :
    (Test.isKnown (.field .lastSeason)).truth? row = some (.ofBool r.lastSeason.isSome) := by
  rw [Test.truth?, h.isKnown_field .lastSeason rfl]
  cases r.lastSeason <;> rfl

end TableRow.Represents

namespace SortExpression

/-- The season under which a row is sorted is the one of the progress of its record. -/
theorem value?_progressSeason (h : row.Represents r) (hr : r.HasOrdinaryProgress) :
    progressSeason.value? row (.data .int8) =
      some (r.comparableProgress.map fun p => p.toFields.1) := by
  simp only [progressSeason, value?, casesValue?, otherwiseValue?, h.truth?_isMovie,
    h.truth?_isPositive_lastSeason, h.truth?_isKnown_lastSeason, h.column?_watched,
    h.column?_lastSeason]
  rw [MediaRecord.comparableProgress, MediaRecord.isMovie]
  cases r.kind with
  | movie =>
    cases r.watched with
    | none => rfl
    | some b => cases b <;> rfl
  | series =>
    rw [MediaRecord.progress]
    cases hn : r.lastSeason with
    | none => rfl
    | some n =>
      show _ = some (some (Progress.ofNumbers n r.lastEpisode).toFields.1)
      rw [Progress.season_ofNumbers (hr.season n hn)]
      by_cases pos : 0 < n
      · simp [pos, Truth.ofOption, Truth.ofBool]
      · simp [pos, Truth.ofOption, Truth.ofBool]

/-- To raise a number to zero and then drop zero keeps what is positive. -/
theorem unlessSame_greatestOf_zero (m : Option Int64) :
    unlessSame (greatestOf m (some 0)) (some 0) = m.filter (0 < ·) := by
  cases m with
  | none => rfl
  | some i =>
    have positive : 0 < i ↔ compare i 0 = .gt := Std.compare_eq_gt.symm
    rw [greatestOf, Option.merge_some_some]
    cases h : compare i 0 with
    | lt => simp [unlessSame, positive, h, Option.filter]
    | eq => simp [unlessSame, positive, h, Option.filter]
    | gt => simp [unlessSame, positive, h, Option.filter]

/-- The episode under which a row is sorted is the one of the progress of its record. -/
theorem value?_progressEpisode (h : row.Represents r) (hr : r.HasOrdinaryProgress) :
    progressEpisode.value? row (.data .int8) =
      some (some (r.comparableProgress.elim 0 Progress.sortedEpisode)) := by
  have endOfSeason : endOfSeason.value? row (.data .int8) = some (some Int64.maxValue) := rfl
  simp only [progressEpisode, value?, casesValue?, otherwiseValue?, h.truth?_isMovie,
    h.truth?_isTrue_watched, h.truth?_isPositive_lastSeason, h.column?_lastEpisode, endOfSeason]
  rw [MediaRecord.comparableProgress, MediaRecord.isMovie]
  cases r.kind with
  | movie =>
    cases r.watched with
    | none => rfl
    | some b => cases b <;> rfl
  | series =>
    rw [MediaRecord.progress]
    cases hn : r.lastSeason with
    | none => rfl
    | some n =>
      show _ = some (some (Progress.ofNumbers n r.lastEpisode).sortedEpisode)
      rw [Progress.sortedEpisode_ofNumbers (hr.season n hn) hr.episode]
      by_cases pos : 0 < n
      · simp [pos, Truth.ofOption, Truth.ofBool, unlessSame_greatestOf_zero]
      · simp [pos, Truth.ofOption, Truth.ofBool]

end SortExpression

end Sql

/-! ### The order -/

/-- A direction is applied to each of two comparisons. -/
theorem SortDirection.apply_then (d : SortDirection) (o o' : Ordering) :
    d.apply (o.then o') = (d.apply o).then (d.apply o') := by
  cases d with
  | ascending => rfl
  | descending => exact Ordering.swap_then o o'

/-- Progress that may be unknown compares as the numbers do under which a database sorts it. -/
theorem Progress.compareMissingLast_eq_sorted (d : SortDirection) (p q : Option Progress) :
    d.compareMissingLast p q =
      (d.compareMissingLast (p.map fun p => p.toFields.1) (q.map fun q => q.toFields.1)).then
        (d.compareMissingLast (some (p.elim 0 sortedEpisode)) (some (q.elim 0 sortedEpisode))) := by
  cases p with
  | none =>
    cases q with
    | none => cases d <;> rfl
    | some q => rfl
  | some p =>
    cases q with
    | none => rfl
    | some q =>
      show d.apply (compare p q) = (d.apply _).then (d.apply _)
      rw [compare_eq_sorted, d.apply_then]
      rfl

namespace Sql

/-- **Rows are sorted by progress as records are compared by it.** The two terms of the order, which
are as they are written here, have a meaning on rows of records, and in both directions it is the
comparison of the records: of movies and shows, watched or not, with known and unknown progress. The
stored numbers may be absent, zero or negative, and as large as a season or an episode can be. -/
theorem compareRows?_progress {a b : MediaRecord} (ha : a.HasOrdinaryProgress)
    (hb : b.HasOrdinaryProgress) {row row' : TableRow} (hrow : row.Represents a)
    (hrow' : row'.Represents b) (d : SortDirection) :
    termText ⟨.progress, d⟩ =
      "CASE WHEN media_type = 'movie' THEN watched::INT4::INT8 " ++
        "WHEN last_season_watched > 0 THEN last_season_watched " ++
        "WHEN last_season_watched IS NOT NULL THEN 0 END " ++ d.keyword ++ " NULLS LAST, " ++
      "CASE WHEN media_type = 'movie' THEN " ++
        "(CASE WHEN watched THEN 9223372036854775807 ELSE 0 END) " ++
        "WHEN last_season_watched > 0 THEN " ++
        "COALESCE(NULLIF(GREATEST(last_episode_watched, 0), 0), 9223372036854775807) " ++
        "ELSE 0 END " ++ d.keyword ++ " NULLS LAST, " ∧
    compareRows? d row row' (SortExpression.ofKey .progress) =
      some (SortTerm.compare ⟨.progress, d⟩ a b) := by
  constructor
  · cases d <;> decide +kernel
  · have none : compareRows? d row row' [] = some .eq := rfl
    have episodes := compareRows?_cons rfl (SortExpression.value?_progressEpisode hrow ha)
      (SortExpression.value?_progressEpisode hrow' hb) none
    have seasons := compareRows?_cons rfl (SortExpression.value?_progressSeason hrow ha)
      (SortExpression.value?_progressSeason hrow' hb) episodes
    refine seasons.trans (congrArg some ?_)
    rw [Ordering.then_eq, compareNullsLast_eq_compareMissingLast,
      compareNullsLast_eq_compareMissingLast]
    exact (Progress.compareMissingLast_eq_sorted d a.comparableProgress b.comparableProgress).symm

/-- A movie that was watched, and a show through its first season, stored with an old episode that
is negative: neither comes before the other. -/
theorem compareRows?_progress_firstSeason :
    let added : Instant := ⟨⟨2020, 2, 29, by decide, by decide⟩, 0, 0, by decide, by decide⟩
    let movie := { MediaRecord.blank ⟨⟨1⟩⟩ "Heat" .movie added with watched := some true }
    let series := { MediaRecord.blank ⟨⟨2⟩⟩ "Slow Horses" .series added with
      lastSeason := some 1, lastEpisode := some (-3) }
    movie.HasOrdinaryProgress ∧ series.HasOrdinaryProgress ∧
      (tableRowOf movie).Represents movie ∧ (tableRowOf series).Represents series ∧
      compareRows? .descending (tableRowOf movie) (tableRowOf series)
        (SortExpression.ofKey .progress) = some .eq := by
  intro added movie series
  have ordinaryMovie : movie.HasOrdinaryProgress := ⟨fun _ h => (nomatch h), fun _ h => (nomatch h)⟩
  have ordinarySeries : series.HasOrdinaryProgress := by
    constructor
    · rintro n ⟨⟩
      decide
    · rintro n ⟨⟩
      decide
  have rowMovie := represents_tableRowOf movie
  have rowSeries := represents_tableRowOf series
  refine ⟨ordinaryMovie, ordinarySeries, rowMovie, rowSeries, ?_⟩
  rw [(compareRows?_progress ordinaryMovie ordinarySeries rowMovie rowSeries .descending).2]
  decide

end Sql

end Mediatheque

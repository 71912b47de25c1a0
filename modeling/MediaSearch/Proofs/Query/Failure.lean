import MediaSearch.Filter.Resolution
import MediaSearch.Filter.Structured
import MediaSearch.Proofs.Binary64.Arithmetic
import MediaSearch.Proofs.Moment.Range
import MediaSearch.Proofs.Query.Slots

/-!
# When filters do not compile

A filter without a section does not compile. Nor does one that asks for items of the last days where
the days are no finite number of milliseconds: they are neither an infinity of time nor left out,
but end compiling with an error about numbers. Every other filter compiles.
-/

set_option autoImplicit false

namespace MediaSearch

theorem Section.choose?_eq_none_iff {filter : Filter} {sections : List Section} :
    choose? filter sections = none ↔
      (∀ id ∈ filter.sectionId, id = "") ∧
        ∀ candidate ∈ sections,
          candidate.type ∉ (MediaKind.ofType filter.type).sectionTypes := by
  have unsuitable : choose?.firstSuitable filter sections = none ↔
      ∀ candidate ∈ sections,
        candidate.type ∉ (MediaKind.ofType filter.type).sectionTypes := by
    simp [choose?.firstSuitable, suits]
  unfold choose?
  cases named : filter.sectionId with
  | none => simp [unsuitable]
  | some id =>
      by_cases empty : id = ""
      · simp [empty, unsuitable]
      · simp [empty]

namespace Query

open Binary64 (IsFinite IsSmall overflow)

/-!
## Milliseconds
-/

theorem abs_truncateRat_le (value : ℚ) : |(Binary64.truncateRat value : ℚ)| ≤ |value| + 1 := by
  have part := Binary64.abs_sub_truncateRat_lt value
  have triangle := abs_sub_abs_le_abs_sub (Binary64.truncateRat value : ℚ) value
  rw [abs_sub_comm] at part
  linarith

theorem exists_referenceMilliseconds {now : Moment} (proper : now.IsProper) :
    ∃ milliseconds, referenceMilliseconds now = .ok milliseconds ∧
      |(milliseconds : ℚ)| ≤ 2 ^ 59 := by
  have near : |mkRat now.unixMicroseconds 1000000| ≤ 2 ^ 39 := by
    have microseconds : |(now.unixMicroseconds : ℚ)| ≤ 2 ^ 58 := by
      exact_mod_cast Moment.abs_unixMicroseconds_le proper
    rw [Rat.mkRat_eq_div, abs_div, div_le_iff₀ (by norm_num)]
    norm_num at microseconds ⊢
    linarith
  obtain ⟨seconds, seconds_eq, secondsNear⟩ := Binary64.exists_finite_of_lt false
    (Binary64.small_lt_overflow (near.trans (by norm_num)))
  obtain ⟨factor, factor_eq, factorNear⟩ := @Binary64.exists_finite_ofInt 1000 (by norm_num)
  have product : |seconds.value * factor.value| ≤ 2 ^ 51 := by
    rw [abs_mul]
    calc
      |seconds.value| * |factor.value| ≤ 2 ^ 40 * 2 ^ 11 := by
        refine mul_le_mul ?_ (factorNear.trans (by norm_num)) (abs_nonneg _) (by norm_num)
        exact secondsNear.trans (by linarith)
      _ = 2 ^ 51 := by norm_num
  obtain ⟨milliseconds, milliseconds_eq, millisecondsNear⟩ := Binary64.exists_finite_of_lt
    (seconds.negative != factor.negative) (Binary64.small_lt_overflow (product.trans (by norm_num)))
  refine ⟨Binary64.truncateRat milliseconds.value, ?_, ?_⟩
  · rw [referenceMilliseconds, seconds_eq, factor_eq]
    change (Binary64.ofRat _ (seconds.value * factor.value)).truncate = _
    rw [milliseconds_eq]
    rfl
  · calc
      |(Binary64.truncateRat milliseconds.value : ℚ)| ≤ |milliseconds.value| + 1 :=
        abs_truncateRat_le milliseconds.value
      _ ≤ 2 * 2 ^ 51 + 1 := by linarith
      _ ≤ 2 ^ 59 := by norm_num

def dayMilliseconds : Binary64.Finite :=
  ⟨false, 86400000 * Nat.pow 2 26, -26, by decide⟩

theorem ofInt_millisecondsPerDay :
    Binary64.ofInt millisecondsPerDay = .finite dayMilliseconds := by
  decide +kernel

theorem dayMilliseconds_value : dayMilliseconds.value = 86400000 := by
  decide +kernel

theorem thousand_value : thousand.value = 1000 := by
  decide +kernel

/-- Days that are no finite number of milliseconds. -/
def Unmeasurable : Number → Prop
  | .int _ => False
  | .real (.finite days) => overflow ≤ |days.value| * 86400000
  | .real _ => True

theorem isFinite_mul_day_iff {days : Binary64} :
    IsFinite (days.mul (Binary64.ofInt millisecondsPerDay)) ↔ ¬ Unmeasurable (.real days) := by
  rw [ofInt_millisecondsPerDay]
  cases days with
  | finite days =>
      have scaled : |days.value * dayMilliseconds.value| = |days.value| * 86400000 := by
        rw [dayMilliseconds_value, abs_mul, abs_of_pos (show (0 : ℚ) < 86400000 by norm_num)]
      rw [Unmeasurable, not_le, ← scaled]
      exact Binary64.isFinite_ofRat_iff
  | infinite negative =>
      exact iff_of_false (Binary64.not_isFinite_infinite _) (not_not_intro trivial)
  | nan => exact iff_of_false Binary64.not_isFinite_nan (not_not_intro trivial)

/-- The time since which items are to have been added is a number exactly if the days are a finite
number of milliseconds. -/
theorem addedSince_spec {now : Moment} (proper : now.IsProper) (days : Number) :
    (¬ Unmeasurable days ∧ ∃ seconds, addedSince days now = .ok seconds) ∨
    (Unmeasurable days ∧ addedSince days now = .error .notANumber) := by
  obtain ⟨milliseconds, read, near⟩ := exists_referenceMilliseconds proper
  unfold addedSince
  rw [read]
  cases days with
  | int days => exact .inl ⟨id, _, rfl⟩
  | real days =>
      obtain ⟨now, now_eq, close⟩ := Binary64.exists_finite_ofInt near
      have small : IsSmall now.value := close.trans (by linarith)
      dsimp only [bind, Except.bind]
      rw [now_eq]
      by_cases unmeasurable : Unmeasurable (.real days)
      · -- What has overflowed stays so under the difference, and the floor of it is no number.
        right
        refine ⟨unmeasurable, ?_⟩
        have large := @Binary64.not_isFinite_sub now _
          (fun finite => isFinite_mul_day_iff.mp finite unmeasurable)
        rw [Binary64.floorDivBy_of_not_isFinite large]
        rfl
      · left
        refine ⟨unmeasurable, ?_⟩
        obtain ⟨elapsed, elapsed_eq⟩ := isFinite_mul_day_iff.mpr unmeasurable
        obtain ⟨start, start_eq⟩ := @Binary64.isFinite_sub now elapsed (.inl small)
        obtain ⟨seconds, seconds_eq⟩ := @Binary64.isFinite_floorDivBy start thousand
          (by rw [thousand_value]; norm_num) (by rw [thousand_value]; norm_num)
        rw [elapsed_eq, start_eq, seconds_eq]
        exact ⟨_, rfl⟩

/-!
## Compiling
-/

/-- The filter names no section, and no section of the library suits its type. -/
def Homeless (filter : Filter) (sections : List Section) : Prop :=
  (∀ id ∈ filter.sectionId, id = "") ∧
    ∀ candidate ∈ sections, candidate.type ∉ (MediaKind.ofType filter.type).sectionTypes

theorem ofFilter_eq_noSection_iff {filter : Filter} {sections : List Section} {now : Moment} :
    ofFilter filter sections now = .error .noSection ↔ Homeless filter sections := by
  rw [Homeless, ← Section.choose?_eq_none_iff]
  unfold ofFilter
  cases Section.choose? filter sections with
  | none => simp [bind, Except.bind]
  | some sectionId =>
      cases filter.addedWithinDays.mapM fun days => addedSince days now <;>
        simp [bind, Except.bind, pure, Except.pure, Except.mapError]

/-- A filter without a section fails for that. With a section, it fails only for days that are no
finite number of milliseconds. -/
theorem ofFilter_fails_iff (filter : Filter) (sections : List Section) {now : Moment}
    (proper : now.IsProper) :
    (ofFilter filter sections now = .error .noSection ↔ Homeless filter sections) ∧
    (ofFilter filter sections now = .error (.recency .notANumber) ↔
      ¬ Homeless filter sections ∧ ∃ days ∈ filter.addedWithinDays, Unmeasurable days) ∧
    ((∃ query, ofFilter filter sections now = .ok query) ↔
      ¬ Homeless filter sections ∧ ∀ days ∈ filter.addedWithinDays, ¬ Unmeasurable days) := by
  have homeless : Homeless filter sections ↔ Section.choose? filter sections = none :=
    Section.choose?_eq_none_iff.symm
  -- A section is looked for first, so that days never hide a missing one.
  unfold ofFilter
  cases chosen : Section.choose? filter sections with
  | none => simp [homeless, chosen, bind, Except.bind]
  | some sectionId =>
      cases recency : filter.addedWithinDays with
      | none => simp [homeless, chosen, bind, Except.bind, pure, Except.pure, Except.mapError]
      | some days =>
          have read : (some days).mapM (fun days => addedSince days now) =
              (addedSince days now).map some := rfl
          rw [read]
          rcases addedSince_spec proper days with
            ⟨measurable, seconds, added⟩ | ⟨unmeasurable, failed⟩
          · simp [homeless, chosen, measurable, added, bind, Except.bind, pure, Except.pure,
              Except.map, Except.mapError]
          · simp [homeless, chosen, unmeasurable, failed, bind, Except.bind, Except.map,
              Except.mapError]

/-- Two to the power of one thousand. -/
def manyDays : Binary64 :=
  .finite ⟨false, Nat.pow 2 52, 948, by decide⟩

/-- A wish for everything that was added in the last so many days. -/
def longRecency : Filter where
  type := some "movie"
  sectionId := some "1"
  addedWithinDays := some (.real manyDays)
  sortOrder := some "desc"
  limit := some 25

theorem ofFilter_fails_iff_manyDays :
    let noon : Moment := ⟨⟨2026, 10, 18⟩, 12, 0, 0, 0, some 0⟩
    noon.IsProper ∧ ¬ Homeless longRecency [] ∧
      ∃ days ∈ longRecency.addedWithinDays, Unmeasurable days := by
  intro noon
  have proper : noon.IsProper := by
    constructor <;> decide
  have failed : ofFilter longRecency [] noon = .error (.recency .notANumber) := by
    decide +kernel
  exact ⟨proper, (ofFilter_fails_iff longRecency [] proper).2.1.mp failed⟩

/-- An object is accepted as a structured filter that names its section, and yet does not compile. -/
theorem ofFilter_resolve_fails_for_manyDays :
    Filter.ofValue "filter" (.object [("type", .text "movie"), ("sectionId", .text "1"),
        ("addedWithinDays", .real manyDays)]) = .ok longRecency ∧
      ofFilter (Filter.resolve none (some longRecency) none) []
        ⟨⟨2026, 10, 18⟩, 12, 0, 0, 0, some 0⟩ = .error (.recency .notANumber) := by
  decide +kernel

end Query

end MediaSearch

import MediaSearch.Proofs.Signals.Years

/-!
# Years before and after

A year behind the word `before` or `after` is the bound of a query, whatever else its text says,
unless the text names a decade. A decade takes the place of all bounds.
-/

set_option autoImplicit false

namespace MediaSearch.Query

open Phrase Signal Text

/-- What is asked for with a text, and with the section to search in if one is named. -/
def wishOf (extracted : Filter) (sectionId : Option String) (limit : Option Int) : Filter :=
  Filter.resolve (some extracted) (sectionId.map fun id => { sectionId := some id }) limit

variable {text : String} {extracted : Filter} {sectionId : Option String} {limit : Option Int}
  {sections : List Section} {now : Moment} {query : Query}

theorem yearParameters_of_askedYears (found : Filter.ofText text = .ok extracted)
    (compiled : ofFilter (wishOf extracted sectionId limit) sections now = .ok query)
    {parameters : List NamedScalar}
    (asked : AskedYears (lower text.toList) now.date.year parameters) :
    query.yearParameters = parameters := by
  obtain ⟨signals, read, rfl⟩ := Filter.ofText_eq_ok_iff.mp found
  obtain ⟨_, _, _, _, _, _, rfl⟩ := Signals.ofLowered_eq_ok_iff.mp read
  rw [yearParameters_of_ofFilter compiled]
  -- The section that is named leaves all years as they were found.
  cases sectionId with
  | none => exact (asked.eq_parameters rfl rfl rfl rfl).symm
  | some id => exact (asked.eq_parameters rfl rfl rfl rfl).symm

/-- Without a decade, a year that is named behind `before` or `after` bounds the query. The first
decade that is named does so otherwise. -/
theorem lookup_yearBounds (found : Filter.ofText text = .ok extracted)
    (compiled : ofFilter (wishOf extracted sectionId limit) sections now = .ok query) :
    (Leftmost ReadsDecade (lower text.toList) none →
      (∀ year : Nat, Leftmost (ReadsYearBehind "before") (lower text.toList) (some year) →
        query.parameters.lookup "year<<" = some (.int (year - 1))) ∧
      (∀ year : Nat, Leftmost (ReadsYearBehind "after") (lower text.toList) (some year) →
        query.parameters.lookup "year>>" = some (.int (year + 1)))) ∧
    ∀ digits : Nat, Leftmost ReadsDecade (lower text.toList) (some digits) →
      ∃ first : Int, first = (if digits < 30 then 2000 + 10 * digits else 1900 + 10 * digits) ∧
        query.parameters.lookup "year>>" = some (.int first) ∧
        query.parameters.lookup "year<<" = some (.int (first + 9)) := by
  have asks {parameters} := @yearParameters_of_askedYears _ _ _ _ _ _ _ found compiled parameters
  have lower_eq := @lookup_yearParameters query "year>>" (by decide)
  have upper_eq := @lookup_yearParameters query "year<<" (by decide)
  rw [← lower_eq, ← upper_eq]
  refine ⟨fun noDecade => ⟨fun year before => ?_, fun year after => ?_⟩, fun digits decade => ?_⟩
  · rw [asks (.bounds noDecade (leftmost_yearBehind_iff.mpr rfl) before
      (leftmost_yearBehind_iff.mpr rfl) (.inr (.inl rfl)))]
    rfl
  · rw [asks (.bounds noDecade (leftmost_yearBehind_iff.mpr rfl) (leftmost_yearBehind_iff.mpr rfl)
      after (.inr (.inr rfl)))]
    rfl
  · refine ⟨_, rfl, ?_⟩
    rw [asks (.decade decade rfl)]
    exact ⟨rfl, rfl⟩

/-- What is found where each of several other signals says a year besides the two bounds. -/
def spanWish : Filter where
  type := some "movie"
  minYear := some 1981
  maxYear := some 1984
  minRating := some (.real (Binary64.ofDigits ['7'] []))
  sort := some "year"
  sortOrder := some "asc"

def queryForSpan : Query where
  sectionId := "7"
  parameters := [("type", .int 1), ("year>>", .int 1981), ("year<<", .int 1984),
    ("rating>>", .number (.real (Binary64.ofDigits ['7'] []))), ("sort", .text "year:asc")]
  sort := "year:asc"
  window := ⟨0, 3⟩

theorem lookup_yearBounds_span :
    let text := "Oldest films from 1970, BEFORE 1985 (or before 1990) but after\n1980, not 1983, " ++
      "rated above 7"
    Filter.ofText text = .ok spanWish ∧
      ofFilter (wishOf spanWish (some "7") (some 3)) [] ⟨⟨2026, 10, 18⟩, 12, 0, 0, 0, some 0⟩ =
        .ok queryForSpan ∧
      Leftmost ReadsDecade (lower text.toList) none ∧
      Leftmost (ReadsYearBehind "before") (lower text.toList) (some 1985) ∧
      Leftmost (ReadsYearBehind "after") (lower text.toList) (some 1980) ∧
      queryForSpan.parameters.lookup "year<<" = some (.int 1984) ∧
      queryForSpan.parameters.lookup "year>>" = some (.int 1981) := by
  intro text
  have found : Filter.ofText text = .ok spanWish := by
    decide +kernel
  have compiled : ofFilter (wishOf spanWish (some "7") (some 3)) []
      ⟨⟨2026, 10, 18⟩, 12, 0, 0, 0, some 0⟩ = .ok queryForSpan := by
    decide +kernel
  have noDecade : Leftmost ReadsDecade (lower text.toList) none :=
    leftmost_decade_iff.mpr (by decide +kernel)
  have before : Leftmost (ReadsYearBehind "before") (lower text.toList) (some 1985) :=
    leftmost_yearBehind_iff.mpr (by decide +kernel)
  have after : Leftmost (ReadsYearBehind "after") (lower text.toList) (some 1980) :=
    leftmost_yearBehind_iff.mpr (by decide +kernel)
  obtain ⟨beforeBounds, afterBounds⟩ := (lookup_yearBounds found compiled).1 noDecade
  exact ⟨found, compiled, noDecade, before, after, beforeBounds 1985 before, afterBounds 1980 after⟩

/-- What is found where bounds stand beside a decade. -/
def decadeWish : Filter where
  type := some "movie"
  minYear := some 1982
  maxYear := some 1987
  decade := some 2700

def queryForDecade : Query where
  sectionId := "1"
  parameters := [("type", .int 1), ("year>>", .int 2700), ("year<<", .int 2709),
    ("sort", .text "titleSort:asc")]
  sort := "titleSort:asc"
  window := ⟨0, 25⟩

/-- Beside a decade neither bound is asked for, although both are found. -/
theorem yearBounds_lost_to_decade :
    let text := "80s movies after 1981 but before 1988"
    Filter.ofText text = .ok decadeWish ∧
      ofFilter (wishOf decadeWish (some "1") none) [] ⟨⟨2026, 10, 18⟩, 12, 0, 0, 0, some 0⟩ =
        .ok queryForDecade ∧
      Leftmost (ReadsYearBehind "before") (lower text.toList) (some 1988) ∧
      queryForDecade.parameters.lookup "year<<" ≠ some (.int (1988 - 1)) ∧
      Leftmost (ReadsYearBehind "after") (lower text.toList) (some 1981) ∧
      queryForDecade.parameters.lookup "year>>" ≠ some (.int (1981 + 1)) := by
  intro text
  refine ⟨?_, ?_, leftmost_yearBehind_iff.mpr ?_, ?_, leftmost_yearBehind_iff.mpr ?_, ?_⟩ <;>
    decide +kernel

end MediaSearch.Query

import MediaSearch.Filter.Resolution
import MediaSearch.Proofs.Phrase.Readings
import MediaSearch.Proofs.Query.Years
import MediaSearch.Proofs.Signals.Extraction

/-!
# The years of a text

The years that a query asks for, told by where a text says what: a decade rules everything else out,
bounds rule a single year out.
-/

set_option autoImplicit false

namespace MediaSearch

open Phrase Text

namespace Signal

/-!
## Phrases
-/

/-- Two digits and an `s`, with a blank or the end of the text behind them. -/
def ReadsDecade : Reading Nat := fun _ after value =>
  ∃ digits rest, after = digits ++ 's' :: rest ∧ IsNumeral 2 digits value ∧
    ∀ next ∈ rest.head?, isBlank next = true

/-- A word, blanks, and four digits. -/
def ReadsYearBehind (word : String) : Reading Nat := fun _ after value =>
  ∃ blanks digits rest, after = word.toList ++ (blanks ++ digits ++ rest) ∧ blanks ≠ [] ∧
    blanks.all isBlank = true ∧ IsNumeral 4 digits value

/-- A year of 1900 to 2029, by how it is written. Its last digits may be of any script. -/
def BeginsRecentYear (digits : List Char) : Prop :=
  ∃ beginning ∈ ["19", "200", "201", "202"], beginning.toList <+: digits

/-- A year of 1900 to 2029 that is neither part of a word nor of a longer number. -/
def ReadsLoneYear : Reading Nat := fun before after value =>
  ∃ digits rest, after = digits ++ rest ∧ IsNumeral 4 digits value ∧ BeginsRecentYear digits ∧
    before.getLast?.any isWordCharacter = false ∧ rest.head?.any isWordCharacter = false

theorem decadeHere?_append {digits rest : List Char} {value found : Nat}
    (numeral : IsNumeral 2 digits value) :
    decadeHere? (digits ++ rest) = some found ↔ found = value ∧
      ∃ behind, rest = 's' :: behind ∧ ∀ next ∈ behind.head?, isBlank next = true := by
  have dropped : (digits ++ rest).drop 2 = rest := by
    rw [← numeral.length, List.drop_left]
  have read : fixedDigits? 2 (digits ++ rest) = some value :=
    fixedDigits?_eq_some_iff.mpr ⟨digits, rest, rfl, numeral⟩
  unfold decadeHere?
  rw [read, dropped]
  dsimp only [bind, Option.bind]
  rw [@eq_comm Nat found value]
  split
  · simp
  · rename_i next rest
    cases blank : isBlank next <;> simp [blank]
  · rename_i notAlone notFollowed
    have other : ∀ behind, rest ≠ 's' :: behind := by
      rintro (_ | ⟨next, behind⟩) rfl
      · exact notAlone rfl
      · exact notFollowed next behind rfl
    simp [other]

theorem recognises_decade : Recognises (fun _ => decadeHere?) ReadsDecade := by
  intro _ after value
  constructor
  · intro read
    obtain ⟨_, numeric, _⟩ := Option.bind_eq_some_iff.mp read
    obtain ⟨digits, rest, rfl, numeral⟩ := fixedDigits?_eq_some_iff.mp numeric
    obtain ⟨rfl, behind, rfl, blank⟩ := (decadeHere?_append numeral).mp read
    exact ⟨digits, behind, rfl, numeral, blank⟩
  · rintro ⟨digits, behind, rfl, numeral, blank⟩
    exact (decadeHere?_append numeral).mpr ⟨rfl, behind, rfl, blank⟩

theorem recognises_yearBehind (word : String) :
    Recognises (fun _ => yearBehind? word) (ReadsYearBehind word) := by
  intro _ after value
  constructor
  · intro read
    obtain ⟨behind, found, yearRead⟩ := Option.bind_eq_some_iff.mp read
    obtain rfl := afterWord?_eq_some_iff.mp found
    obtain ⟨blanks, digits, rest, rfl, more, blank, numeral⟩ :=
      (fixedDigits?_afterBlanks?_eq_some_iff (Nat.succ_pos 3)).mp yearRead
    exact ⟨blanks, digits, rest, rfl, more, blank, numeral⟩
  · rintro ⟨blanks, digits, rest, rfl, more, blank, numeral⟩
    refine Option.bind_eq_some_iff.mpr ⟨_, afterWord?_eq_some_iff.mpr rfl, ?_⟩
    exact (fixedDigits?_afterBlanks?_eq_some_iff (Nat.succ_pos 3)).mpr
      ⟨blanks, digits, rest, rfl, more, blank, numeral⟩

theorem beginsRecentYear_iff {first second third fourth : Char} :
    BeginsRecentYear [first, second, third, fourth] ↔ first = '1' ∧ second = '9' ∨
      first = '2' ∧ second = '0' ∧ (third = '0' ∨ third = '1' ∨ third = '2') := by
  simp [BeginsRecentYear]
  grind

theorem isRecentCentury_append {digits rest : List Char} (length : digits.length = 4) :
    isRecentCentury (digits ++ rest) = true ↔ BeginsRecentYear digits := by
  match digits, length with
  | [first, second, third, fourth], _ =>
      rw [beginsRecentYear_iff]
      simp only [List.cons_append, List.nil_append]
      unfold isRecentCentury
      split
      · rename_i same
        simp only [List.cons.injEq] at same
        simp [same]
      · rename_i same
        simp only [List.cons.injEq] at same
        simp [same, or_assoc]
      · rename_i notNineteen notTwenty
        simp only [Bool.false_eq_true, false_iff]
        rintro (⟨rfl, rfl⟩ | ⟨rfl, rfl, _⟩)
        · exact notNineteen _ rfl
        · exact notTwenty _ _ rfl

theorem digitsValue_four (first second third fourth : Char) :
    digitsValue [first, second, third, fourth] = 1000 * digitValue first +
      100 * digitValue second + 10 * digitValue third + digitValue fourth := by
  simp only [digitsValue, List.foldl_cons, List.foldl_nil]
  omega

/-- However the last digits of such a year are written, it is one of 1900 to 2029. -/
theorem BeginsRecentYear.bounds {digits : List Char} {value : Nat}
    (recent : BeginsRecentYear digits) (numeral : IsNumeral 4 digits value) :
    1900 ≤ value ∧ value ≤ 2029 := by
  have basic : digitValue '0' = 0 ∧ digitValue '1' = 1 ∧ digitValue '2' = 2 ∧
      digitValue '9' = 9 := by decide
  obtain ⟨length, _, rfl⟩ := numeral
  match digits, length with
  | [first, second, third, fourth], _ =>
      have := digitValue_lt_ten third
      have := digitValue_lt_ten fourth
      rw [digitsValue_four]
      rcases beginsRecentYear_iff.mp recent with ⟨rfl, rfl⟩ | ⟨rfl, rfl, rfl | rfl | rfl⟩ <;> omega

theorem recognises_loneYear : Recognises loneYear? ReadsLoneYear := by
  intro before after value
  have four : ∀ {digits rest : List Char}, IsNumeral 4 digits value →
      (digits ++ rest).drop 4 = rest := by
    intro digits rest numeral
    rw [← numeral.length, List.drop_left]
  simp only [loneYear?, ReadsLoneYear, Option.ite_none_left_eq_some, Bool.or_eq_true, not_or,
    Bool.not_eq_true, Bool.not_eq_true', Bool.not_eq_false, fixedDigits?_eq_some_iff]
  constructor
  · rintro ⟨⟨⟨alone, recent⟩, ended⟩, digits, rest, rfl, numeral⟩
    rw [four numeral] at ended
    exact ⟨digits, rest, rfl, numeral, (isRecentCentury_append numeral.length).mp recent, alone,
      ended⟩
  · rintro ⟨digits, rest, rfl, numeral, recent, alone, ended⟩
    rw [four numeral]
    exact ⟨⟨⟨alone, (isRecentCentury_append numeral.length).mpr recent⟩, ended⟩, digits, rest, rfl,
      numeral⟩

/-!
## What is asked for
-/

/-- What comes after a year starts with the next one. -/
def firstAsked : (after since : Option Nat) → Int
  | some year, _ => year + 1
  | none, some year => year
  | none, none => 1800

/-- What comes before a year ends with the one before it. -/
def lastAsked (thisYear : Int) : (before : Option Nat) → Int
  | some year => year - 1
  | none => thisYear

/-- No year stands behind a word that makes it a bound. -/
def Unbounded (text : List Char) : Prop :=
  ∀ word ∈ ["from", "before", "after"], Leftmost (ReadsYearBehind word) text none

/-- The parameters by which a text in lower case asks for years. -/
inductive AskedYears (text : List Char) (thisYear : Int) : List NamedScalar → Prop where
  | decade {digits : Nat} {first : Int} :
      Leftmost ReadsDecade text (some digits) →
      first = (if digits < 30 then 2000 + 10 * digits else 1900 + 10 * digits) →
      AskedYears text thisYear [("year>>", .int first), ("year<<", .int (first + 9))]
  | bounds {since before after : Option Nat} :
      Leftmost ReadsDecade text none →
      Leftmost (ReadsYearBehind "from") text since →
      Leftmost (ReadsYearBehind "before") text before →
      Leftmost (ReadsYearBehind "after") text after →
      since.isSome ∨ before.isSome ∨ after.isSome →
      AskedYears text thisYear [("year>>", .int (firstAsked after since)),
        ("year<<", .int (lastAsked thisYear before))]
  | exactly {year : Nat} :
      Leftmost ReadsDecade text none → Unbounded text →
      Leftmost ReadsLoneYear text (some year) →
      AskedYears text thisYear [("year", .int year)]
  | anything :
      Leftmost ReadsDecade text none → Unbounded text →
      Leftmost ReadsLoneYear text none →
      AskedYears text thisYear []

theorem leftmost_decade_iff {text : List Char} {result : Option Nat} :
    Leftmost ReadsDecade text result ↔ (years text).decade = result :=
  (leftmost_iff_first recognises_decade).trans eq_comm

theorem leftmost_yearBehind_iff {word : String} {text : List Char} {result : Option Nat} :
    Leftmost (ReadsYearBehind word) text result ↔ first (yearBehind? word) text = result :=
  (leftmost_iff_first (recognises_yearBehind word)).trans eq_comm

theorem leftmost_loneYear_iff {text : List Char} {result : Option Nat} :
    Leftmost ReadsLoneYear text result ↔ (years text).exact = result :=
  (leftmost_iff_firstAfter recognises_loneYear).trans eq_comm

theorem unbounded_iff {text : List Char} :
    Unbounded text ↔
      (years text).since = none ∧ (years text).before = none ∧ (years text).after = none := by
  simp [Unbounded, leftmost_yearBehind_iff, years]

/-- What is asked for is what a filter with the years of the text asks for. -/
theorem AskedYears.eq_parameters {text : List Char} {thisYear : Int}
    {parameters : List NamedScalar} {filter : Filter} (asked : AskedYears text thisYear parameters)
    (decade : filter.decade = (years text).decadeYear) (exact : filter.year = (years text).exactYear)
    (least : filter.minYear = (years text).minYear)
    (greatest : filter.maxYear = (years text).maxYear) :
    parameters = (Query.YearRange.ofFilter filter thisYear).parameters := by
  simp only [Query.YearRange.ofFilter, decade, exact, least, greatest, Years.decadeYear,
    Years.exactYear, Years.minYear, Years.maxYear]
  cases asked with
  | @decade digits first found counted =>
      have start : Years.decadeStart digits = first := by
        rw [counted, Years.decadeStart]
        split <;> omega
      simp [leftmost_decade_iff.mp found, start, Query.YearRange.parameters]
  | @bounds since before after noDecade sinceFound beforeFound afterFound bounded =>
      -- Each bound is open or set by itself, but not all are open.
      have sinceRead : (years text).since = since := leftmost_yearBehind_iff.mp sinceFound
      have beforeRead : (years text).before = before := leftmost_yearBehind_iff.mp beforeFound
      have afterRead : (years text).after = after := leftmost_yearBehind_iff.mp afterFound
      rw [leftmost_decade_iff.mp noDecade, sinceRead, beforeRead, afterRead]
      cases since <;> cases before <;> cases after <;>
        simp_all [firstAsked, lastAsked, Query.YearRange.parameters, Query.firstYear]
  | @exactly year noDecade noBounds found =>
      obtain ⟨noSince, noBefore, noAfter⟩ := unbounded_iff.mp noBounds
      simp [leftmost_decade_iff.mp noDecade, noSince, noBefore, noAfter,
        leftmost_loneYear_iff.mp found, Query.YearRange.parameters]
  | anything noDecade noBounds notFound =>
      obtain ⟨noSince, noBefore, noAfter⟩ := unbounded_iff.mp noBounds
      simp [leftmost_decade_iff.mp noDecade, noSince, noBefore, noAfter,
        leftmost_loneYear_iff.mp notFound, Query.YearRange.parameters]

/-- Every text asks for years in some way. -/
theorem exists_askedYears (text : List Char) (thisYear : Int) :
    ∃ parameters, AskedYears text thisYear parameters := by
  cases decade : (years text).decade with
  | some digits => exact ⟨_, .decade (leftmost_decade_iff.mpr decade) rfl⟩
  | none =>
      have noDecade := leftmost_decade_iff.mpr decade
      by_cases bounded : (years text).since.isSome ∨ (years text).before.isSome ∨
          (years text).after.isSome
      · exact ⟨_, .bounds noDecade (leftmost_yearBehind_iff.mpr rfl)
          (leftmost_yearBehind_iff.mpr rfl) (leftmost_yearBehind_iff.mpr rfl) bounded⟩
      · have noBounds : Unbounded text := unbounded_iff.mpr (by simpa using bounded)
        cases exact : (years text).exact with
        | some year => exact ⟨_, .exactly noDecade noBounds (leftmost_loneYear_iff.mpr exact)⟩
        | none => exact ⟨_, .anything noDecade noBounds (leftmost_loneYear_iff.mpr exact)⟩

end Signal

namespace Query

/-- The years of a query that a text compiles to are those that the text asks for, and no others. A
single year is never asked for together with a bound. -/
theorem yearParameters_iff_askedYears {text : String} {extracted : Filter} {limit : Option Int}
    {sections : List Section} {now : Moment} {query : Query}
    (found : Filter.ofText text = .ok extracted)
    (compiled : ofFilter (Filter.resolve (some extracted) none limit) sections now = .ok query) :
    (∀ parameters, query.yearParameters = parameters ↔
      Signal.AskedYears (Text.lower text.toList) now.date.year parameters) ∧
    ("year" ∈ query.parameters.map (·.1) →
      "year>>" ∉ query.parameters.map (·.1) ∧ "year<<" ∉ query.parameters.map (·.1)) := by
  obtain ⟨signals, read, rfl⟩ := Filter.ofText_eq_ok_iff.mp found
  obtain ⟨_, _, _, _, _, _, rfl⟩ := Signals.ofLowered_eq_ok_iff.mp read
  have compiledYears := yearParameters_of_ofFilter compiled
  have determined : ∀ parameters,
      Signal.AskedYears (Text.lower text.toList) now.date.year parameters →
        query.yearParameters = parameters :=
    fun parameters asked => compiledYears.trans (asked.eq_parameters rfl rfl rfl rfl).symm
  refine ⟨fun parameters => ⟨?_, determined parameters⟩, ?_⟩
  · rintro rfl
    obtain ⟨parameters, asked⟩ := Signal.exists_askedYears (Text.lower text.toList) now.date.year
    rwa [determined parameters asked]
  · intro exact
    rw [← mem_map_fst_yearParameters (by decide)] at exact
    rw [← mem_map_fst_yearParameters (by decide), ← mem_map_fst_yearParameters (by decide)]
    rw [compiledYears] at exact ⊢
    exact YearRange.year_excludes_bounds _ exact

/-- What is found where every kind of phrase says a year, and the first of each counts. -/
def boundedWish : Filter where
  type := some "movie"
  minYear := some 1996
  maxYear := some 2009

def queryForBounds : Query where
  sectionId := "1"
  parameters := [("type", .int 1), ("year>>", .int 1996), ("year<<", .int 2009),
    ("sort", .text "titleSort:asc")]
  sort := "titleSort:asc"
  window := ⟨0, 25⟩

theorem yearParameters_iff_askedYears_bounds :
    let text := "Films FROM 2001 (after\t1995, before 2010, before 1980): 90sish, not 1999"
    let noon : Moment := ⟨⟨2026, 10, 18⟩, 12, 0, 0, 0, some 0⟩
    Filter.ofText text = .ok boundedWish ∧
      ofFilter (Filter.resolve (some boundedWish) none none) [⟨"1", "movie", "Films"⟩] noon =
        .ok queryForBounds ∧
      Signal.AskedYears (Text.lower text.toList) 2026
        [("year>>", .int 1996), ("year<<", .int 2009)] := by
  intro text noon
  have found : Filter.ofText text = .ok boundedWish := by
    decide +kernel
  have compiled : ofFilter (Filter.resolve (some boundedWish) none none)
      [⟨"1", "movie", "Films"⟩] noon = .ok queryForBounds := by
    decide +kernel
  exact ⟨found, compiled, ((yearParameters_iff_askedYears found compiled).1 _).mp rfl⟩

end Query

end MediaSearch

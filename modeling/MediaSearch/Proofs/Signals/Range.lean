import MediaSearch.Proofs.Query.Form
import MediaSearch.Proofs.Signals.YearBounds

/-!
# What free text can ask for

The filter of a text holds but a part of what filters can hold: words of the signal tables, years
and amounts within bounds, and no two years or watch states that exclude each other.
-/

set_option autoImplicit false

namespace MediaSearch

open Phrase Text

/-- The bounds on what a text asks for. -/
structure Filter.Sayable (filter : Filter) : Prop where
  watching : filter.watched = none ∨ filter.unwatched = none
  year : ∀ year ∈ filter.year, filter.decade = none ∧ 1900 ≤ year ∧ year ≤ 2029
  decade : ∀ decade ∈ filter.decade, 10 ∣ decade ∧ 2000 ≤ decade ∧ decade ≤ 2890
  minYear : ∀ year ∈ filter.minYear, 0 ≤ year ∧ year ≤ 10000
  maxYear : ∀ year ∈ filter.maxYear, -1 ≤ year ∧ year ≤ 9998
  minMinutes : ∀ minutes ∈ filter.minMinutes, ∃ count : Nat, minutes = .int count
  maxMinutes : ∀ minutes ∈ filter.maxMinutes, ∃ count : Nat, minutes = .int count
  addedWithinDays : ∀ days ∈ filter.addedWithinDays, ∃ count : Nat, days = .int count
  type : ∀ type ∈ filter.type, type ∈ ["movie", "show", "episode"]
  resolution : ∀ resolution ∈ filter.resolution, resolution ∈ ["4k", "hd"]
  order : (filter.sort, filter.sortOrder) ∈ [(none, none), (some "rating", some "desc"),
    (some "addedAt", some "desc"), (some "year", some "asc"), (some "random", none)]
  unasked : filter.sectionId = none ∧ filter.title = none ∧ filter.director = none ∧
    filter.actor = none ∧ filter.studio = none ∧ filter.limit = none

/-!
## Numerals of a few digits
-/

theorem Phrase.foldl_digits_lt (digits : List Char) (value : Nat) :
    digits.foldl (fun value digit => 10 * value + digitValue digit) value <
      (value + 1) * Nat.pow 10 digits.length := by
  induction digits generalizing value with
  | nil => exact Nat.lt_of_lt_of_eq (Nat.lt_succ_self value) (Nat.mul_one _).symm
  | cons digit digits ih =>
      have small := digitValue_lt_ten digit
      calc
        _ < (10 * value + digitValue digit + 1) * Nat.pow 10 digits.length := ih _
        _ ≤ ((value + 1) * 10) * Nat.pow 10 digits.length := Nat.mul_le_mul_right _ (by omega)
        _ = (value + 1) * (Nat.pow 10 digits.length * 10) := by
          rw [Nat.mul_assoc, Nat.mul_comm 10]

theorem Phrase.IsNumeral.lt {count value : Nat} {digits : List Char}
    (numeral : IsNumeral count digits value) : value < Nat.pow 10 count := by
  have bound := foldl_digits_lt digits 0
  rwa [Nat.zero_add, Nat.one_mul, numeral.length, ← digitsValue, numeral.value] at bound

namespace Signal

theorem decade_lt {text : List Char} {digits : Nat} (found : (years text).decade = some digits) :
    digits < 100 := by
  have leftmost := leftmost_decade_iff.mpr found
  cases leftmost with
  | found _ reads _ =>
      obtain ⟨_, _, _, numeral, _⟩ := reads
      exact numeral.lt

theorem yearBehind_lt {word : String} {text : List Char} {year : Nat}
    (found : first (yearBehind? word) text = some year) : year < 10000 := by
  have leftmost := leftmost_yearBehind_iff.mpr found
  cases leftmost with
  | found _ reads _ =>
      obtain ⟨_, _, _, _, _, _, numeral⟩ := reads
      exact numeral.lt

theorem loneYear_bounds {text : List Char} {year : Nat} (found : (years text).exact = some year) :
    1900 ≤ year ∧ year ≤ 2029 := by
  have leftmost := leftmost_loneYear_iff.mpr found
  cases leftmost with
  | found _ reads _ =>
      obtain ⟨_, _, _, numeral, recent, _⟩ := reads
      exact recent.bounds numeral

end Signal

/-!
## Filters of texts
-/

theorem exists_of_map_cast {α : Type} {found : Option Nat} {change : Int → α} {value : α}
    (held : (found : Option Int).map change = some value) :
    ∃ number, found = some number ∧ change number = value := by
  cases found with
  | none => cases held
  | some number => exact ⟨number, rfl, Option.some.inj held⟩

theorem Signals.flag_eq_none_iff {present : Bool} : flag present = none ↔ present = false := by
  cases present <;> simp [flag]

theorem Signals.toFilter_sayable {text : List Char} {signals : Signals}
    (read : ofLowered text = .ok signals) : signals.toFilter.Sayable := by
  obtain ⟨_, _, _, _, _, _, rfl⟩ := ofLowered_eq_ok_iff.mp read
  constructor
  case watching =>
    have exclusive := Signal.watching_exclusive text
    simp only [toFilter, flag_eq_none_iff]
    simpa [← Bool.not_eq_true, ← not_and_or] using exclusive
  case year =>
    intro year held
    simp only [toFilter, Signal.Years.exactYear, Option.mem_def, Option.ite_none_left_eq_some,
      Bool.or_eq_true, not_or] at held
    obtain ⟨⟨noDecade, _⟩, found⟩ := held
    obtain ⟨lone, alone, rfl⟩ := exists_of_map_cast found
    have bounds := Signal.loneYear_bounds alone
    refine ⟨?_, by omega⟩
    simpa [toFilter, Signal.Years.decadeYear] using noDecade
  case decade =>
    intro decade held
    obtain ⟨digits, found, rfl⟩ := Option.map_eq_some_iff.mp held
    have bound := Signal.decade_lt found
    unfold Signal.Years.decadeStart
    split <;> omega
  case minYear =>
    intro year held
    rcases Option.or_eq_some_iff.mp held with after | ⟨_, since⟩
    · obtain ⟨year, found, rfl⟩ := exists_of_map_cast after
      have bound := Signal.yearBehind_lt found
      omega
    · obtain ⟨year, found, rfl⟩ := exists_of_map_cast since
      have bound := Signal.yearBehind_lt found
      omega
  case maxYear =>
    intro year held
    obtain ⟨year, found, rfl⟩ := exists_of_map_cast held
    have bound := Signal.yearBehind_lt found
    omega
  case minMinutes | maxMinutes | addedWithinDays =>
    intro number held
    obtain ⟨count, _, rfl⟩ := exists_of_map_cast held
    exact ⟨count, rfl⟩
  case type =>
    have types : ∀ type ∈ Signal.typeTable.map (·.2), type ∈ ["movie", "show", "episode"] := by
      decide
    exact fun type found => types type (Signal.firstMentioned_mem found)
  case resolution =>
    have resolutions : ∀ resolution ∈ Signal.resolutionTable.map (·.2),
        resolution ∈ ["4k", "hd"] := by
      decide
    exact fun resolution found => resolutions resolution (Signal.firstMentioned_mem found)
  case order =>
    have orders : ∀ order ∈ Signal.orderTable.map (·.2), (some order.field, order.direction) ∈
        [(none, none), (some "rating", some "desc"), (some "addedAt", some "desc"),
          (some "year", some "asc"), (some "random", none)] := by
      decide
    cases found : Signal.order? text with
    | none => simp [toFilter]
    | some order =>
        simpa [toFilter] using orders order (Signal.firstMentioned_mem found)
  case unasked => exact ⟨rfl, rfl, rfl, rfl, rfl, rfl⟩

namespace Query

variable {filter : Filter} {sections : List Section} {now : Moment} {query : Query}

theorem exists_slot_of_mem_names (compiled : ofFilter filter sections now = .ok query)
    {name : String} (member : name ∈ query.names) :
    ∃ value since, (name, some value) ∈ slots filter now.date.year since := by
  obtain ⟨_, since, _, _, rfl⟩ := ofFilter_eq_ok_iff.mp compiled
  obtain ⟨⟨_, value⟩, listed, rfl⟩ := List.mem_map.mp member
  rw [parametersOf_eq_filled] at listed
  exact ⟨value, since, mem_filled.mp listed⟩

theorem unwatched_of_mem_names (compiled : ofFilter filter sections now = .ok query)
    (member : "unwatched" ∈ query.names) : filter.unwatched = some true := by
  obtain ⟨value, since, listed⟩ := exists_slot_of_mem_names compiled member
  have set : flagValue filter.unwatched 1 = some value := by
    simpa [slots, eq_comm] using listed
  simp only [flagValue, Option.ite_none_right_eq_some] at set
  exact set.1

theorem watched_of_mem_names (compiled : ofFilter filter sections now = .ok query)
    (member : "viewCount>>" ∈ query.names) : filter.watched = some true := by
  obtain ⟨value, since, listed⟩ := exists_slot_of_mem_names compiled member
  have set : flagValue filter.watched 0 = some value := by
    simpa [slots, eq_comm] using listed
  simp only [flagValue, Option.ite_none_right_eq_some] at set
  exact set.1

/-- The section that is named beside a text leaves the watch states as they were found. -/
theorem wishOf_watching (extracted : Filter) (sectionId : Option String) (limit : Option Int) :
    (wishOf extracted sectionId limit).unwatched = extracted.unwatched ∧
      (wishOf extracted sectionId limit).watched = extracted.watched := by
  cases sectionId <;> exact ⟨rfl, rfl⟩

/-- What is found in a text keeps to the bounds on what texts ask for. No query for a text asks both
for unwatched items and for watched ones. -/
theorem ofText_sayable {text : String} {extracted : Filter}
    (found : Filter.ofText text = .ok extracted) :
    extracted.Sayable ∧
      ∀ sectionId limit sections now query,
        ofFilter (wishOf extracted sectionId limit) sections now = .ok query →
          ¬ ("unwatched" ∈ query.names ∧ "viewCount>>" ∈ query.names) := by
  obtain ⟨signals, read, rfl⟩ := Filter.ofText_eq_ok_iff.mp found
  have sayable := Signals.toFilter_sayable read
  refine ⟨sayable, ?_⟩
  rintro sectionId limit sections now query compiled ⟨unwatchedNamed, watchedNamed⟩
  have unwatched := unwatched_of_mem_names compiled unwatchedNamed
  have watched := watched_of_mem_names compiled watchedNamed
  obtain ⟨unwatchedKept, watchedKept⟩ := wishOf_watching signals.toFilter sectionId limit
  rw [unwatchedKept] at unwatched
  rw [watchedKept] at watched
  rcases sayable.watching with none | none
  · rw [none] at watched
    cases watched
  · rw [none] at unwatched
    cases unwatched

/-- What is found where years, amounts and watch states are pushed to their bounds. -/
def outermostWish : Filter where
  type := some "show"
  minYear := some 10000
  maxYear := some (-1)
  decade := some 2890
  unwatched := some true
  minMinutes := some (.int 0)
  addedWithinDays := some (.int 90)
  resolution := some "4k"
  sort := some "year"
  sortOrder := some "asc"

theorem ofText_sayable_outermost :
    let text := "Oldest UHD series of the 99s after 9999, before 0000, over 0 hours, not watched, " ++
      "though I watched 2029, new in the past 03 months"
    Filter.ofText text = .ok outermostWish ∧ outermostWish.Sayable ∧
      ∀ sectionId limit sections now query,
        ofFilter (wishOf outermostWish sectionId limit) sections now = .ok query →
          ¬ ("unwatched" ∈ query.names ∧ "viewCount>>" ∈ query.names) := by
  intro text
  have found : Filter.ofText text = .ok outermostWish := by
    decide +kernel
  exact ⟨found, ofText_sayable found⟩

end Query

end MediaSearch

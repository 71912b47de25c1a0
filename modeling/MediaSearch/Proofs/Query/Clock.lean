import MediaSearch.Proofs.Binary64.Exactness
import MediaSearch.Proofs.Query.Failure
import MediaSearch.Proofs.Query.Slots
import Mathlib.Data.List.Forall2

/-!
# Queries at different times

A query shows the time at which its filter was compiled in two parameters only: the time since which
items are to have been added, and the last year of a span that the filter leaves open.
-/

set_option autoImplicit false

namespace MediaSearch

/-!
## Whole seconds
-/

/-- Seconds of Unix time, rounded down. -/
def Moment.unixSeconds (moment : Moment) : Int :=
  moment.unixMicroseconds / 1000000

theorem Moment.unixMicroseconds_eq {moment : Moment} (whole : moment.microsecond = 0) :
    moment.unixMicroseconds = 1000000 * moment.unixSeconds := by
  unfold unixSeconds unixMicroseconds
  dsimp only
  omega

theorem Moment.natAbs_unixSeconds_lt {moment : Moment} (proper : moment.IsProper)
    (whole : moment.microsecond = 0) : (1000 * moment.unixSeconds).natAbs < Nat.pow 2 53 := by
  have near := abs_le.mp (abs_unixMicroseconds_le proper)
  have seconds := unixMicroseconds_eq whole
  norm_num at near ⊢
  omega

namespace Query

/-- On a whole second the detour over floating point numbers is exact. -/
theorem referenceMilliseconds_eq {now : Moment} (proper : now.IsProper)
    (whole : now.microsecond = 0) : referenceMilliseconds now = .ok (1000 * now.unixSeconds) := by
  have near := Moment.natAbs_unixSeconds_lt proper whole
  obtain ⟨seconds, seconds_eq, secondsValue⟩ :=
    @Binary64.exists_ofRat_eq_int false now.unixSeconds (by omega)
  obtain ⟨factor, factor_eq, factorValue⟩ :=
    @Binary64.exists_ofRat_eq_int false 1000 (by decide)
  obtain ⟨milliseconds, milliseconds_eq, millisecondsValue⟩ :=
    @Binary64.exists_ofRat_eq_int (seconds.negative != factor.negative) _ near
  have quotient : mkRat now.unixMicroseconds 1000000 = (now.unixSeconds : ℚ) := by
    rw [Moment.unixMicroseconds_eq whole, Rat.mkRat_eq_div]
    push_cast
    ring
  have product : seconds.value * factor.value = ((1000 * now.unixSeconds : Int) : ℚ) := by
    rw [secondsValue, factorValue]
    push_cast
    ring
  rw [referenceMilliseconds, quotient, seconds_eq, Binary64.ofInt, factor_eq]
  change (Binary64.ofRat _ (seconds.value * factor.value)).truncate = _
  rw [product, milliseconds_eq]
  change Except.ok (Binary64.truncateRat milliseconds.value) = _
  rw [millisecondsValue, Binary64.truncateRat_intCast]

theorem addedSince_int_eq {now : Moment} (proper : now.IsProper) (whole : now.microsecond = 0)
    (days : Int) : addedSince (.int days) now = .ok (now.unixSeconds - 86400 * days) := by
  unfold addedSince
  rw [referenceMilliseconds_eq proper whole]
  change Except.ok _ = _
  rw [millisecondsPerDay]
  congr 1
  omega

theorem since?_eq_of_int {filter : Filter} {days : Option Int}
    (asked : filter.addedWithinDays = days.map .int) {now : Moment} (proper : now.IsProper)
    (whole : now.microsecond = 0) :
    since? filter now = .ok (days.map fun days => now.unixSeconds - 86400 * days) := by
  unfold since?
  rw [asked]
  cases days with
  | none => rfl
  | some days =>
      change (addedSince (.int days) now).map some = _
      rw [addedSince_int_eq proper whole]
      rfl

/-!
## Slots that do not tell the time
-/

/-- Slots of one name that are filled both or neither, and alike unless they may tell the time. -/
structure Slot.Alike (timeless : String → Prop) (left right : Slot) : Prop where
  name : left.1 = right.1
  isSome : left.2.isSome = right.2.isSome
  value : timeless left.1 → left.2 = right.2

section Alike

variable {timeless : String → Prop} {left right : List Slot}

theorem Slot.Alike.empty_or_filled {slot other : Slot} (alike : Slot.Alike timeless slot other) :
    (∃ name, slot = (name, none) ∧ other = (name, none)) ∨
    ∃ name value content, slot = (name, some value) ∧ other = (name, some content) ∧
      (timeless name → value = content) := by
  obtain ⟨name, value⟩ := slot
  obtain ⟨otherName, content⟩ := other
  obtain ⟨same, isSome, sameValue⟩ := alike
  obtain rfl : name = otherName := same
  cases value with
  | none =>
      cases content with
      | none => exact .inl ⟨name, rfl, rfl⟩
      | some content => cases isSome
  | some value =>
      cases content with
      | none => cases isSome
      | some content =>
          refine .inr ⟨name, value, content, rfl, rfl, ?_⟩
          exact fun kept => Option.some.inj (sameValue kept)

theorem map_fst_filled_eq (alike : List.Forall₂ (Slot.Alike timeless) left right) :
    (filled left).map (·.1) = (filled right).map (·.1) := by
  induction alike with
  | nil => rfl
  | cons alike _ ih =>
      obtain ⟨name, rfl, rfl⟩ | ⟨name, value, content, rfl, rfl, -⟩ := alike.empty_or_filled
      · exact ih
      · rw [filled_cons_some, filled_cons_some, List.map_cons, List.map_cons, ih]

theorem lookup_filled_eq (alike : List.Forall₂ (Slot.Alike timeless) left right) {name : String}
    (kept : timeless name) : (filled left).lookup name = (filled right).lookup name := by
  induction alike with
  | nil => rfl
  | cons alike _ ih =>
      obtain ⟨here, rfl, rfl⟩ | ⟨here, value, content, rfl, rfl, same⟩ := alike.empty_or_filled
      · exact ih
      · rw [filled_cons_some, filled_cons_some, List.lookup_cons, List.lookup_cons]
        by_cases wanted : name = here
        · subst wanted
          rw [same kept, beq_self_eq_true]
        · rw [beq_false_of_ne wanted]
          exact ih

end Alike

end Query

/-- The filter bounds years from below only, so that the present year is the last. -/
structure Filter.EndsNow (filter : Filter) : Prop where
  decade : filter.decade = none
  maxYear : filter.maxYear = none
  minYear : filter.minYear.isSome = true

namespace Query

variable {filter : Filter}

theorem YearRange.ofFilter_of_endsNow (open_ : filter.EndsNow) (thisYear : Int) :
    ofFilter filter thisYear = .between (filter.minYear.getD firstYear) thisYear := by
  rw [ofFilter, open_.decade, open_.maxYear, open_.minYear]
  rfl

theorem YearRange.ofFilter_eq_of_not_endsNow (closed : ¬ filter.EndsNow) (left right : Int) :
    ofFilter filter left = ofFilter filter right := by
  unfold ofFilter
  cases decade : filter.decade with
  | some first => rfl
  | none =>
      cases maxYear : filter.maxYear with
      | some last => rfl
      | none =>
          cases minYear : filter.minYear with
          | some first => exact absurd ⟨decade, maxYear, minYear ▸ rfl⟩ closed
          | none => rfl

structure YearRange.AlikeButLast (left right : YearRange) : Prop where
  first : left.first? = right.first?
  last : left.last?.isSome = right.last?.isSome
  only : left.only? = right.only?

theorem YearRange.alikeButLast_ofFilter (filter : Filter) (left right : Int) :
    (ofFilter filter left).AlikeButLast (ofFilter filter right) := by
  by_cases endsNow : filter.EndsNow
  · rw [ofFilter_of_endsNow endsNow, ofFilter_of_endsNow endsNow]
    exact ⟨rfl, rfl, rfl⟩
  · rw [ofFilter_eq_of_not_endsNow endsNow left right]
    exact ⟨rfl, rfl, rfl⟩

/-- A slot at another time. -/
def retimed (years : YearRange) (since : Option Int) (slot : Slot) : Slot :=
  (slot.1, if slot.1 = "addedAt>>" then since.map .int
    else if slot.1 = "year<<" then years.last?.map .int else slot.2)

theorem slots_eq_map_retimed (filter : Filter) (thisYear : Int) (since : Option Int) :
    slots filter thisYear since =
      (slots filter 0 none).map (retimed (.ofFilter filter thisYear) since) := by
  obtain ⟨first, -, only⟩ := YearRange.alikeButLast_ofFilter filter thisYear 0
  unfold slots
  dsimp only
  rw [first, only]
  simp [retimed]

def Timeless (filter : Filter) (name : String) : Prop :=
  name ≠ "addedAt>>" ∧ (filter.EndsNow → name ≠ "year<<")

theorem forall₂_slots_alike (filter : Filter) (leftYear rightYear : Int)
    {leftSince rightSince : Option Int} (both : leftSince.isSome = rightSince.isSome) :
    List.Forall₂ (Slot.Alike (Timeless filter)) (slots filter leftYear leftSince)
      (slots filter rightYear rightSince) := by
  rw [slots_eq_map_retimed filter leftYear, slots_eq_map_retimed filter rightYear,
    List.forall₂_map_left_iff, List.forall₂_map_right_iff, List.forall₂_same]
  intro slot _
  constructor
  · rfl
  · unfold retimed
    dsimp only
    split_ifs
    · rw [Option.isSome_map, Option.isSome_map, both]
    · rw [Option.isSome_map, Option.isSome_map,
        (YearRange.alikeButLast_ofFilter filter leftYear rightYear).last]
    · rfl
  · rintro ⟨noRecency, noLast⟩
    unfold retimed at noRecency noLast ⊢
    dsimp only at noRecency noLast ⊢
    rw [if_neg noRecency, if_neg noRecency]
    split_ifs with last
    · have closed : ¬ filter.EndsNow := fun endsNow => noLast endsNow last
      rw [YearRange.ofFilter_eq_of_not_endsNow closed leftYear rightYear]
    · rfl

theorem lookup_filled {slots : List Slot} (distinct : (slots.map (·.1)).Nodup) {name : String}
    {value : Option Scalar} (member : (name, value) ∈ slots) :
    (filled slots).lookup name = value := by
  have pairs : filled slots = slots.filterMap fun slot => slot.2.map (slot.1, ·) :=
    (List.filterMap_eq_flatMap_toList _ _).symm
  rw [pairs]
  exact Keyed.lookup_filterMap distinct member

/-!
## The same filter at two times
-/

/-- Queries that are alike but for the two parameters that tell the time. -/
structure AlikeButTime (filter : Filter) (left right : Query) : Prop where
  sectionId : left.sectionId = right.sectionId
  names : left.parameters.map (·.1) = right.parameters.map (·.1)
  values : ∀ name, Timeless filter name →
    left.parameters.lookup name = right.parameters.lookup name
  sort : left.sort = right.sort
  window : left.window = right.window

/-- What the two parameters that tell the time say in a query. -/
structure Tells (filter : Filter) (days : Option Int) (now : Moment) (query : Query) : Prop where
  since : query.parameters.lookup "addedAt>>" =
    days.map fun days => .int (now.unixSeconds - 86400 * days)
  lastYear : filter.EndsNow → query.parameters.lookup "year<<" = some (.int now.date.year)

theorem lookup_parametersOf {filter : Filter} {thisYear : Int} {since : Option Int} {name : String}
    {value : Option Scalar} (member : (name, value) ∈ slots filter thisYear since) :
    (parametersOf filter thisYear since).lookup name = value := by
  rw [parametersOf_eq_filled]
  apply lookup_filled _ member
  rw [map_fst_slots]
  exact nodup_parameterNames

theorem lookup_since (filter : Filter) (thisYear : Int) (since : Option Int) :
    (parametersOf filter thisYear since).lookup "addedAt>>" = since.map .int :=
  lookup_parametersOf (by simp [slots])

theorem lookup_lastYear (filter : Filter) (thisYear : Int) (since : Option Int) :
    (parametersOf filter thisYear since).lookup "year<<" =
      (YearRange.ofFilter filter thisYear).last?.map .int :=
  lookup_parametersOf (by simp [slots])

theorem tells_of_parameters {filter : Filter} {days : Option Int} {now : Moment} {query : Query}
    (compiled : query.parameters = parametersOf filter now.date.year
      (days.map fun days => now.unixSeconds - 86400 * days)) :
    Tells filter days now query := by
  constructor
  · rw [compiled, lookup_since, Option.map_map]
    rfl
  · intro endsNow
    rw [compiled, lookup_lastYear, YearRange.ofFilter_of_endsNow endsNow]
    rfl

/-- A filter is compiled at two moments on whole seconds, whatever the offset of either. If a section
is found, the queries differ in what two parameters say: the seconds of the moment less those of the
days, and the year that the moment has at its own offset. -/
theorem ofFilter_alikeButTime (filter : Filter) (sections : List Section) {days : Option Int}
    (asked : filter.addedWithinDays = days.map .int) {left right : Moment}
    (leftProper : left.IsProper) (leftWhole : left.microsecond = 0)
    (rightProper : right.IsProper) (rightWhole : right.microsecond = 0) :
    (ofFilter filter sections left = .error .noSection ∧
      ofFilter filter sections right = .error .noSection) ∨
    ∃ leftQuery rightQuery, ofFilter filter sections left = .ok leftQuery ∧
      ofFilter filter sections right = .ok rightQuery ∧
      AlikeButTime filter leftQuery rightQuery ∧
      Tells filter days left leftQuery ∧ Tells filter days right rightQuery := by
  cases chosen : Section.choose? filter sections with
  | none =>
      have homeless := Section.choose?_eq_none_iff.mp chosen
      exact .inl ⟨ofFilter_eq_noSection_iff.mpr homeless, ofFilter_eq_noSection_iff.mpr homeless⟩
  | some sectionId =>
      have leftSince := since?_eq_of_int asked leftProper leftWhole
      have rightSince := since?_eq_of_int asked rightProper rightWhole
      refine .inr ⟨_, _, ofFilter_eq_ok_iff.mpr ⟨_, _, chosen, leftSince, rfl⟩,
        ofFilter_eq_ok_iff.mpr ⟨_, _, chosen, rightSince, rfl⟩, ?_, tells_of_parameters rfl,
        tells_of_parameters rfl⟩
      have both : (days.map fun days => left.unixSeconds - 86400 * days).isSome =
          (days.map fun days => right.unixSeconds - 86400 * days).isSome := by
        rw [Option.isSome_map, Option.isSome_map]
      have alike := forall₂_slots_alike filter left.date.year right.date.year both
      constructor
      · rfl
      · dsimp only
        rw [parametersOf_eq_filled, parametersOf_eq_filled, map_fst_filled_eq alike]
      · intro name timeless
        dsimp only
        rw [parametersOf_eq_filled, parametersOf_eq_filled, lookup_filled_eq alike timeless]
      · rfl
      · rfl

/-- A wish for what was made since 1990 and added within more days than there ever were. -/
def wishSinceEver : Filter where
  sectionId := some "1"
  minYear := some 1990
  addedWithinDays := some (.int (10 ^ 30))

/-- One instant on two clocks, on which it lies in different years. -/
theorem ofFilter_alikeButTime_at_new_year :
    let here : Moment := ⟨⟨2026, 12, 31⟩, 23, 30, 0, 0, some (-3600)⟩
    let there : Moment := ⟨⟨2027, 1, 1⟩, 0, 30, 0, 0, some 0⟩
    here.IsProper ∧ there.IsProper ∧
      ∃ hereQuery thereQuery, ofFilter wishSinceEver [] here = .ok hereQuery ∧
        ofFilter wishSinceEver [] there = .ok thereQuery ∧
        hereQuery.parameters.lookup "addedAt>>" = some (.int (1798763400 - 86400 * 10 ^ 30)) ∧
        thereQuery.parameters.lookup "addedAt>>" = some (.int (1798763400 - 86400 * 10 ^ 30)) ∧
        hereQuery.parameters.lookup "year<<" = some (.int 2026) ∧
        thereQuery.parameters.lookup "year<<" = some (.int 2027) := by
  intro here there
  have hereProper : here.IsProper := by
    constructor <;> decide
  have thereProper : there.IsProper := by
    constructor <;> decide
  have hereSeconds : here.unixSeconds = 1798763400 := by
    decide +kernel
  have thereSeconds : there.unixSeconds = 1798763400 := by
    decide +kernel
  have endsNow : wishSinceEver.EndsNow := ⟨rfl, rfl, rfl⟩
  have asked : wishSinceEver.addedWithinDays = (some (10 ^ 30)).map .int := rfl
  rcases ofFilter_alikeButTime wishSinceEver [] asked hereProper rfl thereProper rfl with
    ⟨failed, _⟩ | ⟨hereQuery, thereQuery, hereCompiled, thereCompiled, _, hereTells, thereTells⟩
  · exact absurd failed (by decide +kernel)
  · have hereSince := hereTells.since
    have thereSince := thereTells.since
    rw [hereSeconds] at hereSince
    rw [thereSeconds] at thereSince
    exact ⟨hereProper, thereProper, hereQuery, thereQuery, hereCompiled, thereCompiled,
      hereSince, thereSince, hereTells.lastYear endsNow, thereTells.lastYear endsNow⟩

end Query

end MediaSearch

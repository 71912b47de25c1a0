import MediaSearch.Proofs.Filter.Fields
import MediaSearch.Proofs.Query.Slots

/-!
# What a query keeps of a filter

Compiling forgets some differences between filters: unknown words give way to defaults, a decade
hides other years, false flags count as open ones. The demand of a filter is what is left when all
of these are taken away. Two filters that compile have one query exactly if they have one demand, so
compiling forgets nothing else.
-/

set_option autoImplicit false

namespace MediaSearch

/-- Everything about a filter that its query can show. -/
structure Demand where
  sectionId : Option String
  typeCode : Int
  title : Option String
  years : Query.YearRange
  genre : Option String
  contentRating : Option String
  director : Option String
  actor : Option String
  studio : Option String
  minRating : Option Number
  maxRating : Option Number
  unwatched : Bool
  watched : Bool
  inProgress : Bool
  minMinutes : Option Number
  maxMinutes : Option Number
  addedWithinDays : Option Number
  resolution : Option String
  sortField : String
  descending : Bool
  limit : Int
  deriving DecidableEq

/-- The resolutions that a server can be asked for. -/
def Demand.resolutions : List String := ["4k", "hd"]

/-- The sort field that an allowed one stands for, or the default in place of any other. -/
def Demand.sortFieldOf (field : Option String) : String :=
  (field.filter (· ∈ Vocabulary.sortFields)).getD Vocabulary.defaultSort

/-- The demand of a filter on a library with these sections at this moment. -/
def Demand.ofFilter (filter : Filter) (sections : List Section) (now : Moment) : Demand where
  sectionId := Section.choose? filter sections
  typeCode := (MediaKind.ofType filter.type).code
  title := filter.title
  years := Query.YearRange.ofFilter filter now.date.year
  genre := filter.genre
  contentRating := filter.contentRating
  director := filter.director
  actor := filter.actor
  studio := filter.studio
  minRating := filter.minRating
  maxRating := filter.maxRating
  unwatched := filter.unwatched = some true
  watched := filter.watched = some true
  inProgress := filter.inProgress = some true
  minMinutes := filter.minMinutes
  maxMinutes := filter.maxMinutes
  addedWithinDays := filter.addedWithinDays
  resolution := filter.resolution.filter (· ∈ Demand.resolutions)
  sortField := Demand.sortFieldOf filter.sort
  descending := filter.sortOrder = some "desc"
  limit := filter.limit.getD Vocabulary.defaultLimit

/-- Durations and the span of days are integers where they are set. -/
structure Filter.IntegerSpans (filter : Filter) : Prop where
  minMinutes : ∀ minutes ∈ filter.minMinutes, ∃ value, minutes = .int value
  maxMinutes : ∀ minutes ∈ filter.maxMinutes, ∃ value, minutes = .int value
  addedWithinDays : ∀ days ∈ filter.addedWithinDays, ∃ value, days = .int value

/-!
## Slots that tell their values
-/

namespace Query

theorem YearRange.eq_iff {left right : YearRange} :
    left = right ↔ left.first? = right.first? ∧ left.last? = right.last? ∧
      left.only? = right.only? := by
  cases left <;> cases right <;> simp [first?, last?, only?]

theorem flagValue_eq_iff {left right : Option Bool} {value : Int} :
    flagValue left value = flagValue right value ↔ (left = some true ↔ right = some true) := by
  unfold flagValue
  by_cases leftSet : left = some true <;> by_cases rightSet : right = some true <;>
    simp [leftSet, rightSet]

/-- Minutes that are integers are multiplied exactly, so none are lost. -/
theorem durationValue_eq_iff {left right : Option Number}
    (leftInt : ∀ minutes ∈ left, ∃ value, minutes = .int value)
    (rightInt : ∀ minutes ∈ right, ∃ value, minutes = .int value) :
    durationValue left = durationValue right ↔ left = right := by
  cases left with
  | none => cases right <;> simp [durationValue]
  | some left =>
      cases right with
      | none => simp [durationValue]
      | some right =>
          obtain ⟨left, rfl⟩ := leftInt left rfl
          obtain ⟨right, rfl⟩ := rightInt right rfl
          simp only [durationValue, Option.map_some, Option.some.injEq, Number.scale,
            Scalar.number.injEq, Number.int.injEq, millisecondsPerMinute]
          omega

/-- A day is a whole number of seconds, so that rounding down to seconds tells integer days. -/
theorem addedSince_int_inj {left right since : Int} {now : Moment}
    (leftSince : addedSince (.int left) now = .ok since)
    (rightSince : addedSince (.int right) now = .ok since) : left = right := by
  unfold addedSince at leftSince rightSince
  cases read : referenceMilliseconds now with
  | error error => simp [read, bind, Except.bind] at leftSince
  | ok reference =>
      simp only [read, bind, Except.bind, pure, Except.pure, Except.ok.injEq,
        millisecondsPerDay] at leftSince rightSince
      omega

theorem since?_eq_iff {left right : Filter} {now : Moment} {leftSince rightSince : Option Int}
    (leftInt : ∀ days ∈ left.addedWithinDays, ∃ value, days = .int value)
    (rightInt : ∀ days ∈ right.addedWithinDays, ∃ value, days = .int value)
    (leftRead : since? left now = .ok leftSince) (rightRead : since? right now = .ok rightSince) :
    leftSince = rightSince ↔ left.addedWithinDays = right.addedWithinDays := by
  constructor
  · rintro rfl
    cases leftSet : left.addedWithinDays with
    | none =>
        obtain rfl := Except.ok.inj ((since?_of_none leftSet now).symm.trans leftRead)
        cases rightSet : right.addedWithinDays with
        | none => rfl
        | some days =>
            obtain ⟨_, _, impossible⟩ := exists_addedSince_of_since? rightSet rightRead
            cases impossible
    | some days =>
        obtain ⟨seconds, leftAdded, rfl⟩ := exists_addedSince_of_since? leftSet leftRead
        obtain ⟨leftDays, rfl⟩ := leftInt days leftSet
        cases rightSet : right.addedWithinDays with
        | none =>
            rw [since?_of_none rightSet] at rightRead
            cases rightRead
        | some days =>
            obtain ⟨_, rightAdded, same⟩ := exists_addedSince_of_since? rightSet rightRead
            obtain ⟨rightDays, rfl⟩ := rightInt days rightSet
            obtain rfl := Option.some.inj same
            rw [addedSince_int_inj leftAdded rightAdded]
  · intro sameDays
    have sameRead : since? left now = since? right now := by
      rw [since?, since?, sameDays]
    rw [leftRead, rightRead] at sameRead
    exact Except.ok.inj sameRead

theorem resolutionParameter?_eq (resolution : String) :
    resolutionParameter? resolution =
      if resolution = "4k" then some "4k" else if resolution = "hd" then some "1080" else none := by
  unfold resolutionParameter?
  split <;> simp_all

theorem resolutionParameter?_eq_iff {left right : Option String} :
    left.bind resolutionParameter? = right.bind resolutionParameter? ↔
      left.filter (· ∈ Demand.resolutions) = right.filter (· ∈ Demand.resolutions) := by
  have known : ∀ resolution : Option String,
      resolution.filter (· ∈ Demand.resolutions) = none ∧
          resolution.bind resolutionParameter? = none ∨
        resolution.filter (· ∈ Demand.resolutions) = some "4k" ∧
          resolution.bind resolutionParameter? = some "4k" ∨
        resolution.filter (· ∈ Demand.resolutions) = some "hd" ∧
          resolution.bind resolutionParameter? = some "1080" := by
    intro resolution
    cases resolution with
    | none => exact .inl ⟨rfl, rfl⟩
    | some resolution =>
        by_cases ultra : resolution = "4k"
        · subst ultra
          exact .inr (.inl ⟨rfl, rfl⟩)
        · by_cases high : resolution = "hd"
          · subst high
            exact .inr (.inr ⟨rfl, rfl⟩)
          · left
            simp [Option.filter, resolutionParameter?_eq, Demand.resolutions, ultra, high]
  rcases known left with ⟨leftKept, leftRead⟩ | ⟨leftKept, leftRead⟩ | ⟨leftKept, leftRead⟩ <;>
    rcases known right with ⟨rightKept, rightRead⟩ | ⟨rightKept, rightRead⟩ |
      ⟨rightKept, rightRead⟩ <;>
    rw [leftKept, leftRead, rightKept, rightRead] <;> decide

theorem sortText_eq (field order : Option String) :
    sortText field order =
      Demand.sortFieldOf field ++ ":" ++ (if order = some "desc" then "desc" else "asc") := by
  unfold sortText Demand.sortFieldOf
  cases field with
  | none => rfl
  | some field =>
      by_cases allowed : field ∈ Vocabulary.sortFields
      · simp [Option.filter, allowed]
      · simp [Option.filter, allowed]

theorem sortText_unambiguous : ∀ left ∈ Vocabulary.sortFields, ∀ right ∈ Vocabulary.sortFields,
    ∀ leftDescending rightDescending : Bool,
      left ++ ":" ++ (if leftDescending then "desc" else "asc") =
          right ++ ":" ++ (if rightDescending then "desc" else "asc") →
        left = right ∧ leftDescending = rightDescending := by
  decide

theorem Demand.sortFieldOf_mem (field : Option String) :
    Demand.sortFieldOf field ∈ Vocabulary.sortFields := by
  unfold Demand.sortFieldOf
  cases kept : field.filter (· ∈ Vocabulary.sortFields) with
  | none => decide
  | some field =>
      obtain ⟨_, allowed⟩ := Option.filter_eq_some_iff.mp kept
      simpa using allowed

theorem sortText_eq_iff {leftField rightField leftOrder rightOrder : Option String} :
    sortText leftField leftOrder = sortText rightField rightOrder ↔
      Demand.sortFieldOf leftField = Demand.sortFieldOf rightField ∧
        (leftOrder = some "desc" ↔ rightOrder = some "desc") := by
  rw [sortText_eq, sortText_eq]
  constructor
  · intro same
    have parts := sortText_unambiguous _ (Demand.sortFieldOf_mem leftField) _
      (Demand.sortFieldOf_mem rightField) (decide (leftOrder = some "desc"))
      (decide (rightOrder = some "desc")) (by simpa using same)
    simpa using parts
  · rintro ⟨sameField, sameOrder⟩
    rw [sameField]
    simp only [sameOrder]

/-!
## Queries
-/

/-- Two filters that compile at one moment have the same query exactly if they have the same
demand. -/
theorem query_eq_iff_demand_eq {left right : Filter} {sections : List Section} {now : Moment}
    {leftQuery rightQuery : Query} (leftSpans : left.IntegerSpans)
    (rightSpans : right.IntegerSpans)
    (leftCompiled : ofFilter left sections now = .ok leftQuery)
    (rightCompiled : ofFilter right sections now = .ok rightQuery) :
    leftQuery = rightQuery ↔
      Demand.ofFilter left sections now = Demand.ofFilter right sections now := by
  obtain ⟨leftId, leftSince, leftSection, leftRead, rfl⟩ := ofFilter_eq_ok_iff.mp leftCompiled
  obtain ⟨rightId, rightSince, rightSection, rightRead, rfl⟩ :=
    ofFilter_eq_ok_iff.mp rightCompiled
  have sameSince := since?_eq_iff leftSpans.addedWithinDays rightSpans.addedWithinDays leftRead
    rightRead
  have sameLeast := durationValue_eq_iff leftSpans.minMinutes rightSpans.minMinutes
  have sameGreatest := durationValue_eq_iff leftSpans.maxMinutes rightSpans.maxMinutes
  simp only [Query.mk.injEq, Window.mk.injEq, true_and, and_true, parametersOf_eq_iff, slots,
    List.cons.injEq, Prod.mk.injEq, Option.some.injEq, Scalar.int_inj, Scalar.text.injEq,
    Scalar.map_text_inj, Scalar.map_int_inj, Scalar.map_number_inj, flagValue_eq_iff, sameLeast,
    sameGreatest, sameSince, resolutionParameter?_eq_iff, sortText_eq_iff, Demand.ofFilter,
    Demand.mk.injEq, leftSection, rightSection, YearRange.eq_iff, decide_eq_decide]
  -- Both sides now state the same facts, but the query tells how to sort in two places.
  constructor
  · rintro ⟨sameId, ⟨sameCode, sameTitle, sameFirst, sameLast, sameOnly, sameOthers⟩, sameSort,
      sameLimit⟩
    refine ⟨sameId, sameCode, sameTitle, ⟨sameFirst, sameLast, sameOnly⟩, ?_⟩
    grind
  · rintro ⟨sameId, sameCode, sameTitle, ⟨sameFirst, sameLast, sameOnly⟩, sameOthers⟩
    refine ⟨sameId, ⟨sameCode, sameTitle, sameFirst, sameLast, sameOnly, ?_⟩, ?_⟩
    · grind
    · grind

/-- A wish for the nineties by their decade, with words that no server knows. -/
def wishByDecade : Filter where
  type := some "unheard of"
  sectionId := some "7"
  decade := some 1990
  year := some 2001
  unwatched := some false
  minMinutes := some (.int 90)
  addedWithinDays := some (.int (-3))
  resolution := some "sd"
  sort := some "popularity"

/-- A wish for the nineties by their bounds, with defaults written out. -/
def wishByBounds : Filter where
  sectionId := some "7"
  minYear := some 1990
  maxYear := some 1999
  minMinutes := some (.int 90)
  addedWithinDays := some (.int (-3))
  sortOrder := some "ascending"
  limit := some 25

def queryForNineties : Query where
  sectionId := "7"
  parameters := [("type", .int 1), ("year>>", .int 1990), ("year<<", .int 1999),
    ("duration>>", .int 5400000), ("addedAt>>", .int 1792584000), ("sort", .text "titleSort:asc")]
  sort := "titleSort:asc"
  window := ⟨0, 25⟩

theorem query_eq_iff_demand_eq_nineties :
    let noon : Moment := ⟨⟨2026, 10, 18⟩, 12, 0, 0, 0, some 0⟩
    wishByDecade.IntegerSpans ∧ wishByBounds.IntegerSpans ∧
      ofFilter wishByDecade [] noon = .ok queryForNineties ∧
      ofFilter wishByBounds [] noon = .ok queryForNineties ∧
      (queryForNineties = queryForNineties ↔
        Demand.ofFilter wishByDecade [] noon = Demand.ofFilter wishByBounds [] noon) := by
  intro noon
  have decadeSpans : wishByDecade.IntegerSpans := by
    constructor <;> simp [wishByDecade]
  have boundsSpans : wishByBounds.IntegerSpans := by
    constructor <;> simp [wishByBounds]
  have decadeCompiled : ofFilter wishByDecade [] noon = .ok queryForNineties := by
    decide +kernel
  have boundsCompiled : ofFilter wishByBounds [] noon = .ok queryForNineties := by
    decide +kernel
  exact ⟨decadeSpans, boundsSpans, decadeCompiled, boundsCompiled,
    query_eq_iff_demand_eq decadeSpans boundsSpans decadeCompiled boundsCompiled⟩

end Query

end MediaSearch

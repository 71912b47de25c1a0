import MediaSearch.Proofs.Client.Requests
import MediaSearch.Proofs.Query.Demand
import MediaSearch.Proofs.Query.Years

/-!
# The form of queries

Whatever a filter asks for, its query has one form: parameters in a fixed order from the type to the
sorting, years by two bounds or by none, flags with fixed values, and the first page. A client asks
for a query in the same form, with the page behind it.
-/

set_option autoImplicit false

namespace MediaSearch.Query

def names (query : Query) : List String :=
  query.parameters.map (·.1)

/-- The parameters of flags. A flag has one value, or is left out. -/
def flagParameters : List NamedScalar :=
  [("unwatched", .int 1), ("viewCount>>", .int 0), ("inProgress", .int 1)]

structure WellFormed (query : Query) : Prop where
  ordered : query.names.Sublist parameterNames
  distinct : query.names.Nodup
  typeFirst : ∃ kind : MediaKind, query.parameters.head? = some ("type", .int kind.code)
  sortLast : query.parameters.getLast? = some ("sort", .text query.sort)
  paired : "year>>" ∈ query.names ↔ "year<<" ∈ query.names
  apart : "year" ∈ query.names → "year>>" ∉ query.names ∧ "year<<" ∉ query.names
  flags : ∀ parameter ∈ query.parameters, parameter.1 ∈ flagParameters.map (·.1) →
    parameter ∈ flagParameters
  sorting : ∃ field ∈ Vocabulary.sortFields, ∃ direction ∈ Vocabulary.sortOrders,
    query.sort = field ++ ":" ++ direction
  firstPage : query.window.start = 0

/-!
## Compiled queries
-/

theorem head?_parametersOf (filter : Filter) (thisYear : Int) (since : Option Int) :
    (parametersOf filter thisYear since).head? =
      some ("type", .int (MediaKind.ofType filter.type).code) := by
  rw [parametersOf_eq_filled]
  rfl

theorem getLast?_parametersOf (filter : Filter) (thisYear : Int) (since : Option Int) :
    (parametersOf filter thisYear since).getLast? =
      some ("sort", .text (sortText filter.sort filter.sortOrder)) := by
  unfold parametersOf
  exact List.getLast?_concat

theorem eq_of_flagValue {flag : Option Bool} {value : Int} {found : Scalar}
    (set : flagValue flag value = some found) : found = .int value := by
  unfold flagValue at set
  split at set
  · exact (Option.some.inj set).symm
  · cases set

theorem mem_flagParameters_of_mem_slots {filter : Filter} {thisYear : Int} {since : Option Int}
    {name : String} {value : Scalar} (known : name ∈ flagParameters.map (·.1))
    (member : (name, some value) ∈ slots filter thisYear since) :
    (name, value) ∈ flagParameters := by
  have flags : name = "unwatched" ∨ name = "viewCount>>" ∨ name = "inProgress" := by
    simpa [flagParameters] using known
  rcases flags with rfl | rfl | rfl
  · have set : flagValue filter.unwatched 1 = some value := by
      simpa [slots, eq_comm] using member
    simp [flagParameters, eq_of_flagValue set]
  · have set : flagValue filter.watched 0 = some value := by
      simpa [slots, eq_comm] using member
    simp [flagParameters, eq_of_flagValue set]
  · have set : flagValue filter.inProgress 1 = some value := by
      simpa [slots, eq_comm] using member
    simp [flagParameters, eq_of_flagValue set]

theorem exists_sortText_eq (field order : Option String) :
    ∃ allowed ∈ Vocabulary.sortFields, ∃ direction ∈ Vocabulary.sortOrders,
      sortText field order = allowed ++ ":" ++ direction := by
  refine ⟨_, Demand.sortFieldOf_mem field, _, ?_, sortText_eq field order⟩
  split <;> decide

theorem wellFormed_of_ofFilter {filter : Filter} {sections : List Section} {now : Moment}
    {query : Query} (compiled : ofFilter filter sections now = .ok query) : query.WellFormed := by
  have years := yearParameters_of_ofFilter compiled
  obtain ⟨sectionId, since, -, -, rfl⟩ := ofFilter_eq_ok_iff.mp compiled
  constructor
  case ordered => exact map_fst_parametersOf_sublist filter now.date.year since
  case distinct => exact nodup_map_fst_parametersOf filter now.date.year since
  case typeFirst => exact ⟨_, head?_parametersOf filter now.date.year since⟩
  case sortLast => exact getLast?_parametersOf filter now.date.year since
  case paired =>
    rw [names, ← mem_map_fst_yearParameters (by decide), ← mem_map_fst_yearParameters (by decide),
      years]
    exact YearRange.first_iff_last _
  case apart =>
    rw [names, ← mem_map_fst_yearParameters (by decide), ← mem_map_fst_yearParameters (by decide),
      ← mem_map_fst_yearParameters (by decide), years]
    exact YearRange.year_excludes_bounds _
  case flags =>
    rintro ⟨name, value⟩ member known
    rw [parametersOf_eq_filled] at member
    exact mem_flagParameters_of_mem_slots known (mem_filled.mp member)
  case sorting => exact exists_sortText_eq filter.sort filter.sortOrder
  case firstPage => rfl

theorem WellFormed.page_fresh {query : Query} (formed : query.WellFormed) {window : Window}
    {name : String} (page : name ∈ (Client.pageParameters window).map (·.1)) :
    name ∉ query.names := by
  intro present
  have known : name ∈ parameterNames := formed.ordered.subset present
  have fresh : ∀ name ∈ ["X-Plex-Container-Start", "X-Plex-Container-Size"],
      name ∉ parameterNames := by
    decide
  exact fresh name page known

/-- A filter that compiles gives a query of the one form. A client that is asked for its items
requests exactly the parameters of the query, in their order and with the page behind them under
names of its own. -/
theorem form_of_ofFilter {filter : Filter} {sections : List Section} {now : Moment}
    {query : Query} (compiled : ofFilter filter sections now = .ok query) :
    query.WellFormed ∧ ∀ client : Client,
      (client.itemEntries query).Asks (client.itemsRequest query.sectionId
        (query.parameters ++ Client.pageParameters query.window)) 1 4 ∧
      ∀ name ∈ (Client.pageParameters query.window).map (·.1), name ∉ query.names := by
  have formed := wellFormed_of_ofFilter compiled
  refine ⟨formed, fun client => ⟨?_, fun name page => formed.page_fresh page⟩⟩
  rw [← Client.requestParameters_of_ofFilter compiled]
  exact client.asks_itemEntries query

/-- A wish in which almost everything is set, some of it against the rest. -/
def crowdedWish : Filter where
  type := some "episode"
  title := some "sort"
  year := some 1984
  maxYear := some 1999
  genre := some "drama"
  actor := some ""
  maxRating := some (.int 0)
  unwatched := some true
  watched := some true
  inProgress := some true
  minMinutes := some (.int (-1))
  addedWithinDays := some (.int 7)
  resolution := some "hd"
  sort := some "random"
  sortOrder := some "desc"
  limit := some 0

def queryForCrowdedWish : Query where
  sectionId := "2"
  parameters := [("type", .int 4), ("title", .text "sort"), ("year>>", .int 1800),
    ("year<<", .int 1999), ("genre", .text "drama"), ("actor", .text ""), ("rating<<", .int 0),
    ("unwatched", .int 1), ("viewCount>>", .int 0), ("inProgress", .int 1),
    ("duration>>", .int (-60000)), ("addedAt>>", .int 1791720000),
    ("videoResolution", .text "1080"), ("sort", .text "random:desc")]
  sort := "random:desc"
  window := ⟨0, 0⟩

theorem form_of_ofFilter_crowdedWish :
    ofFilter crowdedWish [⟨"1", "movie", "Films"⟩, ⟨"2", "show", "Series"⟩]
        ⟨⟨2026, 10, 18⟩, 12, 0, 0, 0, some 0⟩ = .ok queryForCrowdedWish ∧
      queryForCrowdedWish.WellFormed := by
  have compiled : ofFilter crowdedWish [⟨"1", "movie", "Films"⟩, ⟨"2", "show", "Series"⟩]
      ⟨⟨2026, 10, 18⟩, 12, 0, 0, 0, some 0⟩ = .ok queryForCrowdedWish := by
    decide +kernel
  exact ⟨compiled, (form_of_ofFilter compiled).1⟩

end MediaSearch.Query

import MediaSearch.Scalar

/-!
# Filters

A filter is a set of constraints on media items, each of which may be unset. Filters are laid over
one another field by field; a field that is set to false, zero or the empty text is still set.
-/

set_option autoImplicit false

namespace MediaSearch

/-- Constraints on media items. Years, ratings and durations bound from both sides; the three watch
states are separate and may all be set. -/
structure Filter where
  type : Option String := none
  sectionId : Option String := none
  title : Option String := none
  year : Option Int := none
  minYear : Option Int := none
  maxYear : Option Int := none
  decade : Option Int := none
  genre : Option String := none
  contentRating : Option String := none
  minRating : Option Number := none
  maxRating : Option Number := none
  director : Option String := none
  actor : Option String := none
  studio : Option String := none
  unwatched : Option Bool := none
  watched : Option Bool := none
  inProgress : Option Bool := none
  minMinutes : Option Number := none
  maxMinutes : Option Number := none
  addedWithinDays : Option Number := none
  resolution : Option String := none
  sort : Option String := none
  sortOrder : Option String := none
  limit : Option Int := none
  deriving DecidableEq

namespace Filter

inductive Field where
  | type | sectionId | title | year | minYear | maxYear | decade | genre | contentRating
  | minRating | maxRating | director | actor | studio | unwatched | watched | inProgress
  | minMinutes | maxMinutes | addedWithinDays | resolution | sort | sortOrder | limit
  deriving DecidableEq, Repr

def Field.name : Field → String
  | .type => "type"
  | .sectionId => "section_id"
  | .title => "title"
  | .year => "year"
  | .minYear => "min_year"
  | .maxYear => "max_year"
  | .decade => "decade"
  | .genre => "genre"
  | .contentRating => "content_rating"
  | .minRating => "min_rating"
  | .maxRating => "max_rating"
  | .director => "director"
  | .actor => "actor"
  | .studio => "studio"
  | .unwatched => "unwatched"
  | .watched => "watched"
  | .inProgress => "in_progress"
  | .minMinutes => "min_duration_minutes"
  | .maxMinutes => "max_duration_minutes"
  | .addedWithinDays => "added_within_days"
  | .resolution => "resolution"
  | .sort => "sort"
  | .sortOrder => "sort_order"
  | .limit => "limit"

def Field.all : List Field :=
  [.type, .sectionId, .title, .year, .minYear, .maxYear, .decade, .genre, .contentRating,
    .minRating, .maxRating, .director, .actor, .studio, .unwatched, .watched, .inProgress,
    .minMinutes, .maxMinutes, .addedWithinDays, .resolution, .sort, .sortOrder, .limit]

theorem Field.mem_all (field : Field) : field ∈ Field.all := by
  cases field <;> decide

def get (filter : Filter) : Field → Option Scalar
  | .type => filter.type.map .text
  | .sectionId => filter.sectionId.map .text
  | .title => filter.title.map .text
  | .year => filter.year.map .int
  | .minYear => filter.minYear.map .int
  | .maxYear => filter.maxYear.map .int
  | .decade => filter.decade.map .int
  | .genre => filter.genre.map .text
  | .contentRating => filter.contentRating.map .text
  | .minRating => filter.minRating.map .number
  | .maxRating => filter.maxRating.map .number
  | .director => filter.director.map .text
  | .actor => filter.actor.map .text
  | .studio => filter.studio.map .text
  | .unwatched => filter.unwatched.map .bool
  | .watched => filter.watched.map .bool
  | .inProgress => filter.inProgress.map .bool
  | .minMinutes => filter.minMinutes.map .number
  | .maxMinutes => filter.maxMinutes.map .number
  | .addedWithinDays => filter.addedWithinDays.map .number
  | .resolution => filter.resolution.map .text
  | .sort => filter.sort.map .text
  | .sortOrder => filter.sortOrder.map .text
  | .limit => filter.limit.map .int

def entries (filter : Filter) : List NamedScalar :=
  Field.all.filterMap fun field => (filter.get field).map (field.name, ·)

def toValue (filter : Filter) : Value :=
  Scalar.objectOf filter.entries

def overlay (base top : Filter) : Filter where
  type := top.type.or base.type
  sectionId := top.sectionId.or base.sectionId
  title := top.title.or base.title
  year := top.year.or base.year
  minYear := top.minYear.or base.minYear
  maxYear := top.maxYear.or base.maxYear
  decade := top.decade.or base.decade
  genre := top.genre.or base.genre
  contentRating := top.contentRating.or base.contentRating
  minRating := top.minRating.or base.minRating
  maxRating := top.maxRating.or base.maxRating
  director := top.director.or base.director
  actor := top.actor.or base.actor
  studio := top.studio.or base.studio
  unwatched := top.unwatched.or base.unwatched
  watched := top.watched.or base.watched
  inProgress := top.inProgress.or base.inProgress
  minMinutes := top.minMinutes.or base.minMinutes
  maxMinutes := top.maxMinutes.or base.maxMinutes
  addedWithinDays := top.addedWithinDays.or base.addedWithinDays
  resolution := top.resolution.or base.resolution
  sort := top.sort.or base.sort
  sortOrder := top.sortOrder.or base.sortOrder
  limit := top.limit.or base.limit

/-- Laying a filter over another takes each field from the top if it is set there. -/
@[simp]
theorem get_overlay (base top : Filter) (field : Field) :
    (base.overlay top).get field = (top.get field).or (base.get field) := by
  cases field <;> simp [overlay, get, Option.map_or]

end Filter

end MediaSearch

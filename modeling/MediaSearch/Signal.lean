import MediaSearch.Filter
import MediaSearch.Signal.Amount
import MediaSearch.Signal.ContentRating
import MediaSearch.Signal.Kind
import MediaSearch.Signal.Watching
import MediaSearch.Signal.Years
import MediaSearch.Text.Quoted

/-!
# Filters from free text

A text in plain words is searched for signals, in lower case and each signal by itself. Nothing is
filled in for what the text does not say.
-/

set_option autoImplicit false

namespace MediaSearch

structure Signals where
  type : Option String
  watching : Signal.Watching
  years : Signal.Years
  minRating : Option Binary64
  maxRating : Option Binary64
  genre : Option String
  maxMinutes : Option Nat
  minMinutes : Option Nat
  resolution : Option String
  addedWithinDays : Option Nat
  contentRating : Option String
  order : Option Signal.Order

namespace Signals

/-- The signals in a text that is already in lower case. Only a numeral with too many digits is
refused. -/
def ofLowered (text : List Char) : Except Integer.TooManyDigits Signals := do
  let maxMinutes ← Signal.maxMinutes? text
  let minMinutes ← Signal.minMinutes? text
  let addedWithinDays ← Signal.addedWithinDays? text
  return {
    type := Signal.type? text
    watching := Signal.watching text
    years := Signal.years text
    minRating := Signal.minRating? text
    maxRating := Signal.maxRating? text
    genre := Signal.genre? text
    maxMinutes
    minMinutes
    resolution := Signal.resolution? text
    addedWithinDays
    contentRating := Signal.contentRating? text
    order := Signal.order? text }

/-- A flag that is set or left open. -/
def flag (present : Bool) : Option Bool :=
  if present then some true else none

def toFilter (signals : Signals) : Filter where
  type := signals.type
  year := signals.years.exactYear
  minYear := signals.years.minYear
  maxYear := signals.years.maxYear
  decade := signals.years.decadeYear
  genre := signals.genre
  contentRating := signals.contentRating
  minRating := signals.minRating.map .real
  maxRating := signals.maxRating.map .real
  unwatched := flag signals.watching.unwatched
  watched := flag signals.watching.watched
  inProgress := flag signals.watching.inProgress
  minMinutes := signals.minMinutes.map fun minutes => .int minutes
  maxMinutes := signals.maxMinutes.map fun minutes => .int minutes
  addedWithinDays := signals.addedWithinDays.map fun days => .int days
  resolution := signals.resolution
  sort := signals.order.map (·.field)
  sortOrder := signals.order.bind (·.direction)

/-- The fields in the order in which they are found. The first year comes before the others if the
text says where years start from, and last if only what they come after. -/
def fieldsInOrder (signals : Signals) : List Filter.Field :=
  let yearFields : List Filter.Field :=
    if signals.years.since.isSome then [.decade, .minYear, .maxYear]
    else [.decade, .year, .maxYear, .minYear]
  [.type, .unwatched, .watched, .inProgress] ++ yearFields ++
    [.minRating, .maxRating, .genre, .maxMinutes, .minMinutes, .resolution, .addedWithinDays,
      .contentRating, .sort, .sortOrder]

def found (signals : Signals) : List NamedScalar :=
  signals.fieldsInOrder.filterMap fun field => (signals.toFilter.get field).map (field.name, ·)

end Signals

def Signals.ofText (text : String) : Except Integer.TooManyDigits Signals :=
  Signals.ofLowered (Text.lower text.toList)

def Filter.ofText (text : String) : Except Integer.TooManyDigits Filter :=
  (Signals.ofText text).map Signals.toFilter

end MediaSearch

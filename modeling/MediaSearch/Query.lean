import MediaSearch.Moment
import MediaSearch.Section

/-!
# Queries

A filter compiled into what a server is asked: a section, parameters in a fixed order, and a page
of results. Lower bounds end in two greater-than signs, upper bounds in two less-than signs.
-/

set_option autoImplicit false

namespace MediaSearch

structure Window where
  start : Int
  size : Int
  deriving DecidableEq, Repr

structure Query where
  sectionId : String
  parameters : List NamedScalar
  sort : String
  window : Window
  deriving DecidableEq

namespace Query

inductive Error where
  | noSection
  | recency (error : Binary64.IntegerError)
  deriving DecidableEq, Repr

def Error.message : Error → String
  | .noSection => "could not determine library section for search"
  | .recency error => error.message

def firstYear : Int := 1800

def millisecondsPerMinute : Int := 60000

def millisecondsPerDay : Int := 86400000

/-- The field and the direction of sorting. Unknown fields give way to the title, and everything but
a descending order is ascending. -/
def sortText (field order : Option String) : String :=
  let field := match field with
    | some field => if field ∈ Vocabulary.sortFields then field else Vocabulary.defaultSort
    | none => Vocabulary.defaultSort
  field ++ ":" ++ (if order = some "desc" then "desc" else "asc")

inductive YearRange where
  | unbounded
  | exactly (year : Int)
  | between (first last : Int)
  deriving DecidableEq, Repr

/-- The years that a filter admits. A decade rules bounds out, and bounds rule a single year out; an
open bound is the first year of all or the present one. -/
def YearRange.ofFilter (filter : Filter) (thisYear : Int) : YearRange :=
  match filter.decade with
  | some first => .between first (first + 9)
  | none =>
      if filter.minYear.isSome || filter.maxYear.isSome then
        .between (filter.minYear.getD firstYear) (filter.maxYear.getD thisYear)
      else
        match filter.year with
        | some year => .exactly year
        | none => .unbounded

def YearRange.parameters : YearRange → List NamedScalar
  | .unbounded => []
  | .exactly year => [("year", .int year)]
  | .between first last => [("year>>", .int first), ("year<<", .int last)]

/-- The milliseconds of Unix time of a moment. They pass through seconds as a floating point number.
-/
def referenceMilliseconds (reference : Moment) : Except Binary64.IntegerError Int :=
  ((Binary64.ofRat false (mkRat reference.unixMicroseconds 1000000)).mul
    (Binary64.ofInt 1000)).truncate

/-- The number one thousand, by which milliseconds become seconds. -/
def thousand : Binary64.Finite :=
  ⟨false, 1000 * Nat.pow 2 43, -43, by decide⟩

/-- The Unix time in seconds that lies so many days before a moment, rounded down. Days as an
integer are taken off exactly. -/
def addedSince (days : Number) (reference : Moment) : Except Binary64.IntegerError Int := do
  let now ← referenceMilliseconds reference
  match days with
  | .int days => return (now - days * millisecondsPerDay) / 1000
  | .real days =>
      let elapsed := days.mul (Binary64.ofInt millisecondsPerDay)
      (Binary64.floorDivBy ((Binary64.ofInt now).sub elapsed) thousand).truncate

def resolutionParameter? : (resolution : String) → Option String
  | "4k" => some "4k"
  | "hd" => some "1080"
  | _ => none

/-- A parameter that is there if its value is. -/
def given (name : String) (value : Option Scalar) : List NamedScalar :=
  (value.map (name, ·)).toList

/-- A parameter that is there if a flag is set to true. -/
def flagged (name : String) (flag : Option Bool) (value : Int) : List NamedScalar :=
  if flag = some true then [(name, .int value)] else []

/-- The parameters of a filter in their order, told since when items are to have been added. -/
def parametersOf (filter : Filter) (thisYear : Int) (since : Option Int) : List NamedScalar :=
  [("type", Scalar.int (MediaKind.ofType filter.type).code)] ++
  given "title" (filter.title.map .text) ++
  (YearRange.ofFilter filter thisYear).parameters ++
  given "genre" (filter.genre.map .text) ++
  given "contentRating" (filter.contentRating.map .text) ++
  given "director" (filter.director.map .text) ++
  given "actor" (filter.actor.map .text) ++
  given "studio" (filter.studio.map .text) ++
  given "rating>>" (filter.minRating.map .number) ++
  given "rating<<" (filter.maxRating.map .number) ++
  flagged "unwatched" filter.unwatched 1 ++
  flagged "viewCount>>" filter.watched 0 ++
  flagged "inProgress" filter.inProgress 1 ++
  given "duration>>" (filter.minMinutes.map fun minutes =>
    .number (minutes.scale millisecondsPerMinute)) ++
  given "duration<<" (filter.maxMinutes.map fun minutes =>
    .number (minutes.scale millisecondsPerMinute)) ++
  given "addedAt>>" (since.map .int) ++
  given "videoResolution" ((filter.resolution.bind resolutionParameter?).map .text) ++
  [("sort", .text (sortText filter.sort filter.sortOrder))]

/-- Compiles a filter, given the sections of the library and the present moment. -/
def ofFilter (filter : Filter) (sections : List Section) (now : Moment) : Except Error Query := do
  let sectionId ← match Section.choose? filter sections with
    | some id => .ok id
    | none => .error .noSection
  let since ← (filter.addedWithinDays.mapM fun days => addedSince days now).mapError .recency
  return {
    sectionId
    parameters := parametersOf filter now.date.year since
    sort := sortText filter.sort filter.sortOrder
    window := ⟨0, filter.limit.getD Vocabulary.defaultLimit⟩ }

/-- What is noted about a compiled filter: a resolution without a parameter, and the query. -/
def notes (filter : Filter) (query : Query) : List String :=
  (match filter.resolution with
    | some resolution =>
        if (resolutionParameter? resolution).isNone then
          ["Resolution " ++ Text.quoted resolution ++ " has no Plex filter, ignored"]
        else []
    | none => []) ++
  ["Compiled Plex query section=" ++ query.sectionId ++ " params=" ++
    (Scalar.objectOf query.parameters).quoted ++ " window=PageWindow(start=" ++
    Integer.text query.window.start ++ ", size=" ++ Integer.text query.window.size ++ ")"]

def toValue (query : Query) : Value :=
  .object [("sectionId", .text query.sectionId),
    ("parameters", Scalar.objectOf query.parameters),
    ("sort", .text query.sort),
    ("window", .object [("start", .int query.window.start), ("size", .int query.window.size)])]

end Query

end MediaSearch

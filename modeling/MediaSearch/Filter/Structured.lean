import MediaSearch.Filter
import MediaSearch.Value.Expect
import MediaSearch.Vocabulary

/-!
# Structured filters

Filters given as an object: every key names a field, and the value under it has the type of the
field. Null counts as left out. Some fields have two keys; then the later entry wins.
-/

set_option autoImplicit false

namespace MediaSearch.Filter

inductive StructureError where
  | value (error : ValueError)
  | unknownFields (key : String) (names : List String)
  | missingType (key : String)
  deriving DecidableEq, Repr

def StructureError.message : StructureError → String
  | .value error => error.message
  | .unknownFields key names => key ++ " has unknown fields: " ++ Text.quotedList names
  | .missingType key => "Missing required field: " ++ key ++ ".type"

/-- The keys of a structured filter and the fields that they name. -/
def structuredKeys : List (String × Field) :=
  [("type", .type), ("sectionId", .sectionId), ("title", .title), ("year", .year),
    ("minYear", .minYear), ("maxYear", .maxYear), ("decade", .decade), ("genre", .genre),
    ("contentRating", .contentRating), ("minRating", .minRating), ("maxRating", .maxRating),
    ("director", .director), ("actor", .actor), ("studio", .studio), ("unwatched", .unwatched),
    ("watched", .watched), ("inProgress", .inProgress), ("minDuration", .minMinutes),
    ("minDurationMinutes", .minMinutes), ("maxDuration", .maxMinutes),
    ("maxDurationMinutes", .maxMinutes), ("addedWithin", .addedWithinDays),
    ("addedWithinDays", .addedWithinDays), ("resolution", .resolution), ("sort", .sort),
    ("sortOrder", .sortOrder), ("limit", .limit)]

def fieldOfKey? (key : String) : Option Field :=
  structuredKeys.lookup key

/-- The value of a field, checked for its type or its closed set of texts. The identifier of a
section may be an integer and becomes its decimal digits. -/
def checkField (path : String) (value : Value) : Field → Except ValueError Scalar
  | .type => (value.expectChoice path Vocabulary.mediaTypes).map .text
  | .resolution => (value.expectChoice path Vocabulary.resolutions).map .text
  | .sort => (value.expectChoice path Vocabulary.sortFields).map .text
  | .sortOrder => (value.expectChoice path Vocabulary.sortOrders).map .text
  | .sectionId =>
      match value with
      | .int number => .ok (.text (Integer.text number))
      | value => (value.expectText path).map .text
  | .title | .genre | .contentRating | .director | .actor | .studio =>
      (value.expectText path).map .text
  | .year | .minYear | .maxYear | .decade | .limit => (value.expectInt path).map .int
  | .unwatched | .watched | .inProgress => (value.expectBool path).map .bool
  | .minRating | .maxRating | .minMinutes | .maxMinutes | .addedWithinDays =>
      (value.expectNumber path).map .number

/-- Sets a field to a scalar of its type. A scalar of another type changes nothing. -/
def set (filter : Filter) : Field → Scalar → Filter
  | .type, .text value => { filter with type := some value }
  | .sectionId, .text value => { filter with sectionId := some value }
  | .title, .text value => { filter with title := some value }
  | .year, .number (.int value) => { filter with year := some value }
  | .minYear, .number (.int value) => { filter with minYear := some value }
  | .maxYear, .number (.int value) => { filter with maxYear := some value }
  | .decade, .number (.int value) => { filter with decade := some value }
  | .genre, .text value => { filter with genre := some value }
  | .contentRating, .text value => { filter with contentRating := some value }
  | .minRating, .number value => { filter with minRating := some value }
  | .maxRating, .number value => { filter with maxRating := some value }
  | .director, .text value => { filter with director := some value }
  | .actor, .text value => { filter with actor := some value }
  | .studio, .text value => { filter with studio := some value }
  | .unwatched, .bool value => { filter with unwatched := some value }
  | .watched, .bool value => { filter with watched := some value }
  | .inProgress, .bool value => { filter with inProgress := some value }
  | .minMinutes, .number value => { filter with minMinutes := some value }
  | .maxMinutes, .number value => { filter with maxMinutes := some value }
  | .addedWithinDays, .number value => { filter with addedWithinDays := some value }
  | .resolution, .text value => { filter with resolution := some value }
  | .sort, .text value => { filter with sort := some value }
  | .sortOrder, .text value => { filter with sortOrder := some value }
  | .limit, .number (.int value) => { filter with limit := some value }
  | _, _ => filter

/-- The fields that the entries set, in order and without nulls. Every key must be known. -/
def assignments (key : String) : Entries → Except ValueError (List (Field × Scalar))
  | [] => .ok []
  | (_, .null) :: rest => assignments key rest
  | (name, value) :: rest =>
      match fieldOfKey? name with
      | none => assignments key rest
      | some field =>
          (checkField (key ++ "." ++ name) value field).bind fun scalar =>
            (assignments key rest).map ((field, scalar) :: ·)

def ofAssignments (assigned : List (Field × Scalar)) : Filter :=
  assigned.foldl (fun filter assignment => filter.set assignment.1 assignment.2) {}

/-- The keys that name no field, in the order of their characters. -/
def unknownKeys (entries : Entries) : List String :=
  ((entries.map (·.1)).filter fun name => (fieldOfKey? name).isNone).mergeSort
    fun left right => !decide (right < left)

/-- Reads a structured filter whose place is named by a key. Sort order and page size are filled in;
a type must be given. -/
def ofValue (key : String) (value : Value) : Except StructureError Filter := do
  let entries ← (value.expectObject key).mapError .value
  let unknown := unknownKeys entries
  if !unknown.isEmpty then throw (.unknownFields key unknown)
  let filter := ofAssignments (← (assignments key entries).mapError .value)
  if filter.type.isNone then throw (.missingType key)
  return { filter with
    sortOrder := filter.sortOrder.or (some Vocabulary.structuredSortOrder)
    limit := filter.limit.or (some Vocabulary.defaultLimit) }

end MediaSearch.Filter

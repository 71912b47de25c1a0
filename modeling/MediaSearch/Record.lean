import MediaSearch.Moment
import MediaSearch.Value

/-!
# Media records

The items that a server finds. Servers send fields in many shapes; a field that cannot be taken
for what it should be is left open. The reader of written dates is taken as it comes.
-/

set_option autoImplicit false

namespace MediaSearch

structure Record where
  id : String
  title : String
  type : String
  year : Option Int := none
  rating : Option Binary64 := none
  durationMs : Option Int := none
  summary : Option String := none
  «show» : Option String := none
  season : Option String := none
  episode : Option Int := none
  viewCount : Option Int := none
  viewOffsetMs : Option Int := none
  contentRating : Option String := none
  studio : Option String := none
  genres : List String := []
  directors : List String := []
  cast : List String := []
  addedAt : Option Moment := none
  lastViewedAt : Option Moment := none
  released : Option Moment := none

namespace Record

inductive Error where
  | integer (error : Binary64.IntegerError)
  | integerTooLarge
  | moment (error : Moment.RangeError)
  deriving DecidableEq, Repr

def Error.message : Error → String
  | .integer error => error.message
  | .integerTooLarge => "int too large to convert to float"
  | .moment error => error.message

/-- The integer that a value stands for: itself, the whole part of a number, or what a numeral says.
-/
def integer : Value → Except Error (Option Int)
  | .int value => .ok (some value)
  | .real value =>
      match value.truncate with
      | .ok whole => .ok (some whole)
      | .error .notANumber => .ok none
      | .error .infinite => .error (.integer .infinite)
  | .text written => .ok (Integer.ofText? written.toList)
  | _ => .ok none

def real : Value → Except Error (Option Binary64)
  | .int value =>
      match Binary64.ofInt? value with
      | some number => .ok (some number)
      | none => .error .integerTooLarge
  | .real value => .ok (some value)
  | .text written => .ok (Binary64.ofText? written.toList)
  | _ => .ok none

def moment (value : Value) : Except Error (Option Moment) := do
  match ← integer value with
  | none => return none
  | some seconds => return some (← (Moment.ofUnixSeconds seconds).mapError .moment)

def released? (readDate : Moment.Reader) (value : Value) : Option Moment :=
  let written := value.trimmedText
  if written.isEmpty then none else readDate written

/-- The text of a value, unless it is blank. -/
def text? (value : Value) : Option String :=
  let text := value.trimmedText
  if text.isEmpty then none else some text

def tag? : Value → Option String
  | .object entries => text? (Entries.get entries "tag")
  | _ => none

def tags : Value → List String
  | .list items => items.filterMap tag?
  | _ => []

def untitled : String := "Untitled"

def ofEntry (readDate : Moment.Reader) (entry : Entries) : Except Error Record := do
  let year ← integer (entry.get "year")
  let rating ← real (entry.get "rating")
  let durationMs ← integer (entry.get "duration")
  let episode ← integer (entry.get "index")
  let viewCount ← integer (entry.get "viewCount")
  let viewOffsetMs ← integer (entry.get "viewOffset")
  let addedAt ← moment (entry.get "addedAt")
  let lastViewedAt ← moment (entry.get "lastViewedAt")
  return {
    id := (entry.get "ratingKey").trimmedText
    title := (text? (entry.get "title")).getD untitled
    type := (entry.get "type").trimmedText
    year
    rating
    durationMs
    summary := text? (entry.get "summary")
    «show» := text? (entry.get "grandparentTitle")
    season := text? (entry.get "parentTitle")
    episode
    viewCount
    viewOffsetMs
    contentRating := text? (entry.get "contentRating")
    studio := text? (entry.get "studio")
    genres := tags (entry.get "Genre")
    directors := tags (entry.get "Director")
    cast := tags (entry.get "Role")
    addedAt
    lastViewedAt
    released := released? readDate (entry.get "originallyAvailableAt") }

def ofEntries (readDate : Moment.Reader) (entries : List Entries) : Except Error (List Record) :=
  entries.mapM (ofEntry readDate)

end Record

end MediaSearch

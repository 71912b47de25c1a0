import MediaSearch.Record
import MediaSearch.Record.Duration
import MediaSearch.Scalar

/-!
# Result cards

What is shown of a record: its key, title, type and year, and of the other fields those that hold
something. A listing writes the cards of many records as text.
-/

set_option autoImplicit false

namespace MediaSearch

namespace Record

/-- Why a record cannot be shown. -/
inductive CardError where
  | duration (error : Integer.WriteError)
  | quotientTooLarge
  | percentage (error : Binary64.IntegerError)
  deriving DecidableEq, Repr

def CardError.message : CardError → String
  | .duration error => error.message
  | .quotientTooLarge => "integer division result too large for a float"
  | .percentage error => error.message

def summaryLength : Nat := 150

def castLength : Nat := 3

def shortSummary (summary : String) : String :=
  let characters := summary.toList
  if summaryLength < characters.length then
    String.ofList (characters.take summaryLength) ++ "..."
  else summary

/-- How much of a duration was watched, in whole per cent. Quotient and percentage are rounded in
turn. -/
def progress (offset duration : Int) : Except CardError String := do
  match Binary64.ofRat ((offset < 0) != (duration < 0)) ((offset : Rat) / (duration : Rat)) with
  | .infinite _ => throw .quotientTooLarge
  | part =>
      let percentage ← ((part.mul (Binary64.ofInt 100)).round).mapError .percentage
      return Integer.text percentage ++ "%"

def line (name : String) (value : Option Scalar) : List NamedScalar :=
  (value.map (name, ·)).toList

def filledText (text : Option String) : Option Scalar :=
  text.bind fun text => if text.isEmpty then none else some (.text text)

def filledInt (value : Option Int) : Option Int :=
  value.filter (· != 0)

/-- Names separated by commas, unless there are none. -/
def joined (names : List String) : Option Scalar :=
  if names.isEmpty then none else some (.text (", ".intercalate names))

/-- How long the record lasts, if that is known and not zero. -/
def duration? (record : Record) : Except CardError (Option String) :=
  match filledInt record.durationMs with
  | some duration => ((Duration.text duration).mapError .duration).map some
  | none => .ok none

/-- How much of the record was watched, if both an offset and a duration are known. -/
def progress? (record : Record) : Except CardError (Option String) :=
  match filledInt record.viewOffsetMs, filledInt record.durationMs with
  | some offset, some duration => (progress offset duration).map some
  | _, _ => .ok none

def card (record : Record) : Except CardError (List NamedScalar) := do
  let duration ← record.duration?
  let progress ← record.progress?
  return [("ratingKey", .text record.id), ("title", .text record.title),
      ("type", .text record.type), ("year", (record.year.map Scalar.int).getD .null)] ++
    line "rating" ((record.rating.filter (!·.isZero)).map fun rating => .number (.real rating)) ++
    line "duration" (duration.map .text) ++
    line "summary" (filledText (record.summary.map shortSummary)) ++
    line "show" (filledText record.show) ++
    line "season" (filledText record.season) ++
    line "episode" (record.episode.map .int) ++
    line "viewCount" ((filledInt record.viewCount).map .int) ++
    line "progress" (progress.map .text) ++
    line "contentRating" (filledText record.contentRating) ++
    line "studio" (filledText record.studio) ++
    line "genres" (joined record.genres) ++
    line "directors" (joined record.directors) ++
    line "starring" (joined (record.cast.take castLength))

def cards (records : List Record) : Except CardError (List (List NamedScalar)) :=
  records.mapM card

/-!
## Listings
-/

/-- The lines of a listing below the heading of a record, in order: the name of the card's entry and
its label. -/
def labels : List (String × String) :=
  [("show", "Show"), ("season", "Season"), ("episode", "Episode"), ("rating", "Rating"),
    ("duration", "Duration"), ("contentRating", "Content rating"), ("progress", "Progress"),
    ("viewCount", "Views"), ("genres", "Genres"), ("directors", "Directors"),
    ("starring", "Starring"), ("studio", "Studio"), ("summary", "Summary")]

/-- The heading of a record: its number, title, year if it is not zero, and type. -/
def heading (number : Nat) (record : Record) : String :=
  Integer.text number ++ ". " ++ record.title ++
    ((filledInt record.year).map fun year => " (" ++ Integer.text year ++ ")").getD "" ++
    " [" ++ record.type ++ "]"

/-- The lines of a record: its heading and a labelled line for every entry of its card that has a
label. -/
def block (number : Nat) (record : Record) : Except CardError (List String) := do
  let card ← record.card
  return heading number record ::
    labels.filterMap fun (name, label) =>
      (card.lookup name).map fun value => "   " ++ label ++ ": " ++ value.display

/-- The lines of records with numbers from the given one on, an empty line behind each. -/
def blocksFrom (number : Nat) : List Record → Except CardError (List String)
  | [] => .ok []
  | record :: rest => do
      let lines ← block number record
      return lines ++ [""] ++ (← blocksFrom (number + 1) rest)

def listing (records : List Record) : Except CardError String := do
  return Text.trimEnd ("\n".intercalate (← blocksFrom 1 records)) ++ "\n"

end Record

end MediaSearch

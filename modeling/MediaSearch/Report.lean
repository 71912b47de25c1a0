import MediaSearch.Json
import MediaSearch.Library
import MediaSearch.Text.Line

/-!
# Reports

What is written of an outcome: notes for the console, and documents in result files. Every format
is written once and in a fixed order, however settings name it.
-/

set_option autoImplicit false

namespace MediaSearch

/-- The payload of an outcome: the message, the text and what it says if there is one, the filter,
and the cards of the records. -/
def Outcome.payload (outcome : Outcome) : Except Record.CardError Value := do
  let cards ← Record.cards outcome.records
  return .object (
    [("message", .text outcome.message)] ++
    (outcome.query.map fun query => ("query", Value.text query)).toList ++
    (outcome.extracted.map fun extracted => ("parsedFilters", extracted.toValue)).toList ++
    [("filters", outcome.filters.toValue), ("results", .list (cards.map Scalar.objectOf))])

inductive Format where
  | console
  | json
  deriving DecidableEq, Repr

namespace Format

def all : List Format := [.console, .json]

def name : Format → String
  | .console => "console"
  | .json => "json"

/-- The forms that are named. No form at all is a failure. -/
def chosen (names : List String) : Except Failure (List Format) :=
  let formats := all.filter fun format => names.contains format.name
  if formats.isEmpty then .error .noFormats else .ok formats

/-- Shows an outcome on the console: the message, and the listing of the records if there are any.
-/
def present (outcome : Outcome) : Action Unit := do
  Action.info outcome.message
  unless outcome.records.isEmpty do
    let listing ← Action.ofExcept .card (Record.listing outcome.records)
    (Text.lines listing.toList).forM fun line => Action.info (String.ofList line)

/-- Reports an outcome in one form. Payloads wait for the end. -/
def report (outcome : Outcome) : Format → Action Unit
  | .console => present outcome
  | .json => do Action.keep (← Action.ofExcept .card outcome.payload)

def resultFolder (directory : String) : Path :=
  (Path.ofText directory).join "json"

/-- The path of the result file of an activity, told the moment on the clocks of the place. -/
def resultPath (directory activity : String) (now : Moment) : Path :=
  (resultFolder directory).join (activity ++ "_" ++ now.resultFileStamp ++ ".json")

/-- Ends an activity in one form. All payloads so far go to its result file. -/
def finish (directory activity : String) : Format → Action Unit
  | .console => pure ()
  | .json => do
      let session ← get
      match Json.write? (.list session.payloads) with
      | none => throw .document
      | some document =>
          let path := resultPath directory activity session.localTime
          Action.changeFolder fun folder => folder.make (resultFolder directory)
          Action.writeFile path document
          Action.info ("JSON saved to " ++ path.text)

end Format

/-- The reports that are written: their forms, and the directory for files. -/
structure Reporter where
  formats : List Format
  directory : String

namespace Reporter

def ofSettings (settings : Settings.Output) : Except Failure Reporter :=
  (Format.chosen settings.formats).map fun formats => ⟨formats, settings.directory⟩

def report (reporter : Reporter) (outcome : Outcome) : Action Unit :=
  reporter.formats.forM (Format.report outcome)

def finish (reporter : Reporter) (activity : String) : Action Unit :=
  reporter.formats.forM (Format.finish reporter.directory activity)

end Reporter

end MediaSearch

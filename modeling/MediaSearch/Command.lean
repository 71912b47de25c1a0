import MediaSearch.Command.Line
import MediaSearch.Report
import MediaSearch.Text.CamelCase
import MediaSearch.Vocabulary

/-!
# Commands

The four things that the program does: searching for a text, searching for a structured filter,
showing what a text is compiled into, and listing sections.
-/

set_option autoImplicit false

namespace MediaSearch

/-- A command with what it needs. -/
inductive Command where
  | smart (text : String) (limit : Option Int)
  | advanced (filter : Entries)
  | compile (text : String) (sectionId : Option String) (limit : Option Int)
  | sections

namespace Command

inductive Name where
  | smart | advanced | compile | sections
  deriving DecidableEq, Repr

def Name.word : Name → String
  | .smart => "smart"
  | .advanced => "advanced"
  | .compile => "compile"
  | .sections => "sections"

def Name.all : List Name := [.smart, .advanced, .compile, .sections]

def name : Command → Name
  | .smart .. => .smart
  | .advanced _ => .advanced
  | .compile .. => .compile
  | .sections => .sections

/-- The options of a structured search. Apart from the type they are named for the fields of
filters. -/
def advancedOptions : List OptionSpec :=
  [⟨"type", .choice Vocabulary.mediaTypes, true⟩, ⟨"section_id", .text, false⟩,
    ⟨"title", .text, false⟩, ⟨"year", .integer, false⟩, ⟨"min_year", .integer, false⟩,
    ⟨"max_year", .integer, false⟩, ⟨"decade", .integer, false⟩, ⟨"genre", .text, false⟩,
    ⟨"content_rating", .text, false⟩, ⟨"min_rating", .real, false⟩,
    ⟨"max_rating", .real, false⟩, ⟨"director", .text, false⟩, ⟨"actor", .text, false⟩,
    ⟨"studio", .text, false⟩, ⟨"unwatched", .flag, false⟩, ⟨"watched", .flag, false⟩,
    ⟨"in_progress", .flag, false⟩, ⟨"min_duration", .integer, false⟩,
    ⟨"max_duration", .integer, false⟩, ⟨"added_within", .integer, false⟩,
    ⟨"resolution", .choice Vocabulary.resolutions, false⟩,
    ⟨"sort", .choice Vocabulary.sortFields, false⟩,
    ⟨"sort_order", .choice Vocabulary.sortOrders, false⟩, ⟨"limit", .integer, false⟩]

def Name.options : Name → List OptionSpec
  | .smart => [⟨"limit", .integer, false⟩]
  | .advanced => advancedOptions
  | .compile => [⟨"section_id", .text, false⟩, ⟨"limit", .integer, false⟩]
  | .sections => []

def integerOf? (values : List NamedScalar) (name : String) : Option Int :=
  match values.lookup name with
  | some (.number (.int value)) => some value
  | _ => none

def textOf? (values : List NamedScalar) (name : String) : Option String :=
  match values.lookup name with
  | some (.text value) => some value
  | _ => none

/-- Whether a value sets an option. Nothing and false do not. -/
def isSet : Scalar → Bool
  | .null | .bool false => false
  | _ => true

/-- The structured filter that values of options make: the names of those that are set become keys
in camel case. -/
def filterOf (values : List NamedScalar) : Entries :=
  (values.filter fun named => isSet named.2).map fun (name, value) =>
    (String.ofList (Text.camelCase name.toList), value.toValue)

/-- The only word that there may be. -/
def onlyWord : List String → Except UsageError String
  | [] => .error .missingWord
  | [word] => .ok word
  | _ :: rest => .error (.extraWords rest)

/-- No word may be there. -/
def noWords : List String → Except UsageError Unit
  | [] => .ok ()
  | words => .error (.extraWords words)

def ofWords (read : Reader) (name : Name) (words : List String) : Except UsageError Command := do
  let ⟨values, others⟩ ← read name.options true words
  match name with
  | .smart => return .smart (← onlyWord others) (integerOf? values "limit")
  | .advanced =>
      noWords others
      return .advanced (filterOf values)
  | .compile =>
      return .compile (← onlyWord others) (textOf? values "section_id") (integerOf? values "limit")
  | .sections =>
      noWords others
      return .sections

def searchWith (reporter : Reporter) (search : Action Outcome) : Action Unit := do
  let outcome ← search
  Action.info ("Fetched " ++ Integer.text outcome.records.length ++ " records")
  reporter.report outcome

def printDocument (value : Value) : Action Unit :=
  match Json.write? value with
  | some document => Action.print (document ++ "\n")
  | none => throw .document

def execute (library : Library) (reporter : Reporter) : Command → Action Unit
  | .smart text limit => searchWith reporter (library.searchText text limit)
  | .advanced filter => searchWith reporter (library.searchStructured (.object filter))
  | .compile text sectionId limit => do
      let filter ← library.resolveText text sectionId limit
      let query ← library.compile filter
      printDocument (.object [("filters", filter.toValue), ("compiled", query.toValue)])
  | .sections => do
      let sections ← library.sections
      Action.info ("Found " ++ Integer.text sections.length ++ " section(s)")
      sections.forM fun entry =>
        Action.info (entry.id ++ ". " ++ entry.title ++ " [" ++ entry.type ++ "]")

end Command

end MediaSearch

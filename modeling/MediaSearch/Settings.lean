import MediaSearch.Value.Expect
import MediaSearch.Text.LetterCase
import MediaSearch.Vocabulary

/-!
# Settings

What a user configures: notes, the server, the page size and the output. Every setting has a
default, and null counts as left out. Reading takes all settings for what they are by type before
it checks any of them for sense, section by section.
-/

set_option autoImplicit false

namespace MediaSearch

namespace Settings

/-- Settings of notes: the least level that is shown, and whether and where they go to a file. -/
structure Notes where
  level : String
  toFile : Bool
  directory : String
  deriving DecidableEq, Repr

/-- Settings of the server. The token is never among the settings themselves; they name the variable
of the environment that holds it. -/
structure Server where
  url : String
  tokenVariable : String
  token : String
  timeout : Binary64
  deriving DecidableEq

/-- Settings of searches: the page size where none is asked for. -/
structure Search where
  limit : Int
  deriving DecidableEq, Repr

/-- Settings of the output: where result files go, and the formats to write. -/
structure Output where
  directory : String
  formats : List String
  deriving DecidableEq, Repr

inductive Error where
  /-- A value is not of its type. -/
  | value (error : ValueError)
  | missingSection (name : String)
  | unknownLevel
  | blank (key : String)
  | unknownScheme
  | notPositive (key : String)
  /-- No format is named. -/
  | noFormats
  /-- Some formats are not known. They are in order and each is there once. -/
  | unknownFormats (names : List String)
  | missingToken (variableName : String)
  | notAnObject
  deriving DecidableEq, Repr

def levelNames : List String :=
  ["CRITICAL", "DEBUG", "ERROR", "INFO", "WARNING"]

def Error.message : Error → String
  | .value error => error.message
  | .missingSection name => "Missing required config: " ++ name
  | .unknownLevel => "log.level must be one of " ++ Text.quotedList levelNames
  | .blank key => key ++ " must not be empty"
  | .unknownScheme => "server.url must start with http:// or https://"
  | .notPositive key => key ++ " must be positive"
  | .noFormats => "output.formats must include at least one format"
  | .unknownFormats names => "output.formats has unknown formats: " ++ Text.quotedList names
  | .missingToken variableName =>
      variableName ++ " environment variable not set. " ++
        "Set it in your .env file or shell environment."
  | .notAnObject => "Config root must be a mapping/object"

abbrev Environment := List (String × String)

/-!
## Reading
-/

/-- The entries of a section. One that is missing or null has none, unless it is required. -/
def sectionOf (name : String) (required : Bool) (root : Entries) : Except Error Entries :=
  match root.get name with
  | .null => if required then .error (.missingSection name) else .ok []
  | value => (value.expectObject name).mapError .value

def valueOr (fallback : Value) (name : String) (entries : Entries) : Value :=
  match entries.get name with
  | .null => fallback
  | value => value

/-- Reads the settings of notes. A level may be written in any letter case. -/
def Notes.ofEntries (root : Entries) : Except Error Notes := do
  let entries ← sectionOf "log" false root
  let level ← ((valueOr (.text "INFO") "level" entries).expectText "log.level").mapError .value
  let toFile ← ((valueOr (.bool false) "to_file" entries).expectBool "log.to_file").mapError .value
  let directory ← ((valueOr (.text "log") "dir" entries).expectText "log.dir").mapError .value
  return ⟨String.ofList (Text.upper level.toList), toFile, directory⟩

def Server.ofEntries (root : Entries) (environment : Environment) : Except Error Server := do
  let entries ← sectionOf "server" false root
  let tokenVariable ← ((valueOr (.text "PLEX_TOKEN") "token_env" entries).expectText
    "server.token_env").mapError .value
  let url ← ((valueOr (.text "http://localhost:32400") "url" entries).expectText
    "server.url").mapError .value
  let timeout ← ((valueOr (.int 30) "timeout" entries).expectReal
    "server.timeout").mapError .value
  return ⟨url, tokenVariable, Text.trim ((environment.lookup tokenVariable).getD ""), timeout⟩

def Search.ofEntries (root : Entries) : Except Error Search := do
  let entries ← sectionOf "search" false root
  let limit ← ((valueOr (.int Vocabulary.defaultLimit) "limit" entries).expectInt
    "search.limit").mapError .value
  return ⟨limit⟩

/-- Reads the settings of the output. Formats may be written in any letter case and between blanks.
-/
def Output.ofEntries (root : Entries) : Except Error Output := do
  let entries ← sectionOf "output" false root
  let formats ← ((valueOr (.list [.text "console"]) "formats" entries).expectTexts
    "output.formats").mapError .value
  let directory ← ((valueOr (.text "output") "base_dir" entries).expectText
    "output.base_dir").mapError .value
  return ⟨directory, formats.map fun name =>
    String.ofList (Text.lower (Text.trim name).toList)⟩

/-!
## Checking
-/

def Notes.check (notes : Notes) : Except Error Unit := do
  unless notes.level ∈ levelNames do throw .unknownLevel
  if Text.isBlankText notes.directory then throw (.blank "log.dir")

/-- Refuses a blank address or one of another scheme, a blank name of a variable, and a timeout of
zero or below. -/
def Server.check (server : Server) : Except Error Unit := do
  if Text.isBlankText server.url then throw (.blank "server.url")
  unless server.url.startsWith "http://" || server.url.startsWith "https://" do
    throw .unknownScheme
  if Text.isBlankText server.tokenVariable then throw (.blank "server.token_env")
  if server.timeout.isAtMostZero then throw (.notPositive "server.timeout")

/-- Refuses settings that do not let a request be made: those that have no sense, or no token. -/
def Server.checkToken (server : Server) : Except Error Unit := do
  server.check
  if server.token.isEmpty then throw (.missingToken server.tokenVariable)

def Search.check (search : Search) : Except Error Unit := do
  if search.limit ≤ 0 then throw (.notPositive "search.limit")

/-- The formats that there are. -/
def formatNames : List String := ["console", "json"]

/-- Texts in the order of their characters, each of them once. -/
def sortedOnce (names : List String) : List String :=
  (names.eraseDups).mergeSort fun left right => !decide (right < left)

def Output.check (output : Output) : Except Error Unit := do
  if Text.isBlankText output.directory then throw (.blank "output.base_dir")
  if output.formats.isEmpty then throw .noFormats
  let unknown := sortedOnce (output.formats.filter (· ∉ formatNames))
  unless unknown.isEmpty do throw (.unknownFormats unknown)

end Settings

structure Settings where
  notes : Settings.Notes
  server : Settings.Server
  search : Settings.Search
  output : Settings.Output
  deriving DecidableEq

/-- Reads and checks all settings. A token is not yet needed. -/
def Settings.ofEntries (root : Entries) (environment : Settings.Environment) :
    Except Settings.Error Settings := do
  let notes ← Notes.ofEntries root
  let server ← Server.ofEntries root environment
  let search ← Search.ofEntries root
  let output ← Output.ofEntries root
  notes.check
  server.check
  search.check
  output.check
  return ⟨notes, server, search, output⟩

end MediaSearch

import MediaSearch.Proofs.Result
import MediaSearch.Settings

/-!
# Settings field by field

Every setting is read from a place of its own: a section and a key in it. Nothing else in the
entries has a bearing on it, and null there counts as if nothing stood there.
-/

set_option autoImplicit false

namespace MediaSearch

/-- What shows of a value where an object is not looked into. -/
def Value.outside : Value → Value
  | .object _ => .object []
  | value => value

/-- What does not look into objects cannot tell values apart that look the same outside. -/
theorem Value.eq_of_outside_eq {α : Type} (read : Value → α)
    (blind : ∀ entries, read (.object entries) = read (.object [])) {left right : Value}
    (same : left.outside = right.outside) : read left = read right := by
  have read_outside : ∀ value : Value, read value.outside = read value := by
    intro value
    cases value with
    | object entries => exact (blind entries).symm
    | _ => rfl
  rw [← read_outside left, same, read_outside]

namespace Value

variable {key : String} {value : Value}

theorem expectText_eq_ok_iff {text : String} :
    value.expectText key = .ok text ↔ value = .text text := by
  cases value <;> simp [expectText]

theorem expectBool_eq_ok_iff {flag : Bool} :
    value.expectBool key = .ok flag ↔ value = .bool flag := by
  cases value <;> simp [expectBool]

theorem expectInt_eq_ok_iff {number : Int} :
    value.expectInt key = .ok number ↔ value = .int number := by
  cases value <;> simp [expectInt]

theorem expectObject_eq_ok_iff {entries : Entries} :
    value.expectObject key = .ok entries ↔ value = .object entries := by
  cases value <;> simp [expectObject]

theorem expectReal_eq_ok_iff {number : Binary64} :
    value.expectReal key = .ok number ↔
      value = .real number ∨ ∃ whole, value = .int whole ∧ Binary64.ofInt? whole = some number := by
  cases value with
  | int whole =>
      simp only [expectReal, expectNumber, Except.bind, Number.toBinary64?, reduceCtorEq, false_or,
        int.injEq, exists_eq_left']
      cases Binary64.ofInt? whole <;> simp
  | real found => simp [expectReal, expectNumber, Except.bind, Number.toBinary64?]
  | _ => simp [expectReal, expectNumber, Except.bind]

theorem expectTextsFrom_eq_ok_iff {place : Nat} {items : List Value} {texts : List String} :
    expectTextsFrom key place items = .ok texts ↔ items = texts.map .text := by
  induction items generalizing place texts with
  | nil => simp [expectTextsFrom, eq_comm]
  | cons item rest ih =>
      rw [expectTextsFrom]
      cases item with
      | text found =>
          cases texts with
          | nil =>
              cases expectTextsFrom key (place + 1) rest <;>
                simp [expectText, Except.bind, Except.map]
          | cons first others =>
              rw [List.map_cons, List.cons.injEq, ← @ih (place + 1) others]
              cases expectTextsFrom key (place + 1) rest <;>
                simp [expectText, Except.bind, Except.map]
      | _ => cases texts <;> simp [expectText, Except.bind]

theorem expectTexts_eq_ok_iff {texts : List String} :
    value.expectTexts key = .ok texts ↔ value = .list (texts.map .text) := by
  cases value with
  | list items => simp [expectTexts, expectTextsFrom_eq_ok_iff]
  | _ => simp [expectTexts]

end Value

namespace Settings

/-!
## Places
-/

inductive Field where
  | level | toFile | noteDirectory
  | url | tokenVariable | timeout
  | limit
  | resultDirectory | formats
  deriving DecidableEq, Repr

def sectionNames : List String := ["log", "server", "search", "output"]

namespace Field

def all : List Field :=
  [.level, .toFile, .noteDirectory, .url, .tokenVariable, .timeout, .limit, .resultDirectory,
    .formats]

theorem mem_all (field : Field) : field ∈ all := by
  cases field <;> decide

def sectionName : Field → String
  | .level | .toFile | .noteDirectory => "log"
  | .url | .tokenVariable | .timeout => "server"
  | .limit => "search"
  | .resultDirectory | .formats => "output"

theorem sectionName_mem (field : Field) : field.sectionName ∈ sectionNames := by
  cases field <;> decide

def key : Field → String
  | .level => "level"
  | .toFile => "to_file"
  | .noteDirectory => "dir"
  | .url => "url"
  | .tokenVariable => "token_env"
  | .timeout => "timeout"
  | .limit => "limit"
  | .resultDirectory => "base_dir"
  | .formats => "formats"

/-- What counts where nothing is set. -/
def fallback : Field → Value
  | .level => .text "INFO"
  | .toFile => .bool false
  | .noteDirectory => .text "log"
  | .url => .text "http://localhost:32400"
  | .tokenVariable => .text "PLEX_TOKEN"
  | .timeout => .int 30
  | .limit => .int 25
  | .resultDirectory => .text "output"
  | .formats => .list [.text "console"]

end Field

/-- What a section holds. -/
def sectionEntries (root : Entries) (name : String) : Entries :=
  match root.get name with
  | .object entries => entries
  | _ => []

/-- A section can be read if it is left out or null, or if it is an object. -/
def Opens (root : Entries) (name : String) : Prop :=
  root.get name = .null ∨ ∃ entries, root.get name = .object entries

/-- What stands at the place of a field. -/
def held? (root : Entries) (field : Field) : Option Value :=
  (sectionEntries root field.sectionName).lookup field.key

/-- What counts for a field. -/
def given (root : Entries) (field : Field) : Value :=
  valueOr field.fallback field.key (sectionEntries root field.sectionName)

theorem outside_given_congr {left right : Entries} {field : Field}
    (same : ((held? left field).getD .null).outside = ((held? right field).getD .null).outside) :
    (given left field).outside = (given right field).outside := by
  let counting : Value → Value := fun value =>
    (valueOr field.fallback field.key [(field.key, value)]).outside
  have given_outside : ∀ root,
      (given root field).outside = counting ((held? root field).getD .null) := by
    intro root
    cases field <;> rfl
  rw [given_outside, given_outside]
  refine Value.eq_of_outside_eq counting (fun entries => ?_) same
  cases field <;> rfl

theorem given_congr {left right : Entries} {field : Field}
    (same : held? left field = held? right field) : given left field = given right field := by
  have same : (sectionEntries left field.sectionName).get field.key =
      (sectionEntries right field.sectionName).get field.key :=
    congrArg (·.getD .null) same
  rw [given, given, valueOr, valueOr, same]

theorem sectionOf_of_opens {root : Entries} {name : String} (opens : Opens root name) :
    sectionOf name false root = .ok (sectionEntries root name) := by
  unfold sectionOf sectionEntries
  cases opens with
  | inl null => rw [null]; rfl
  | inr object =>
      obtain ⟨entries, object⟩ := object
      rw [object]
      rfl

theorem sectionOf_eq_ok_iff {root entries : Entries} {name : String} :
    sectionOf name false root = .ok entries ↔
      Opens root name ∧ entries = sectionEntries root name := by
  constructor
  · intro read
    have opens : Opens root name := by
      unfold sectionOf at read
      split at read
      · exact .inl ‹_›
      · exact .inr ⟨entries, Value.expectObject_eq_ok_iff.mp (Result.mapError_eq_ok_iff.mp read)⟩
    rw [sectionOf_of_opens opens, Except.ok.injEq] at read
    exact ⟨opens, read.symm⟩
  · intro held
    obtain ⟨opens, rfl⟩ := held
    exact sectionOf_of_opens opens

/-!
## Readings
-/

/-- What a value that counts for a field makes of the settings. Levels and formats may be written in
any letter case, formats also between blanks, and a timeout as an integer. -/
def Field.Reads (settings : Settings) : Field → Value → Prop
  | .level, value => ∃ written : String, value = .text written ∧
      settings.notes.level = String.ofList (Text.upper written.toList)
  | .toFile, value => value = .bool settings.notes.toFile
  | .noteDirectory, value => value = .text settings.notes.directory
  | .url, value => value = .text settings.server.url
  | .tokenVariable, value => value = .text settings.server.tokenVariable
  | .timeout, value => value = .real settings.server.timeout ∨
      ∃ whole, value = .int whole ∧ Binary64.ofInt? whole = some settings.server.timeout
  | .limit, value => value = .int settings.search.limit
  | .resultDirectory, value => value = .text settings.output.directory
  | .formats, value => ∃ written : List String, value = .list (written.map .text) ∧
      settings.output.formats = written.map fun name =>
        String.ofList (Text.lower (Text.trim name).toList)

/-- The settings say what the entries and the environment do. -/
structure Reflects (root : Entries) (environment : Environment) (settings : Settings) : Prop where
  opens : ∀ name ∈ sectionNames, Opens root name
  reads : ∀ field : Field, field.Reads settings (given root field)
  token : settings.server.token =
    Text.trim ((environment.lookup settings.server.tokenVariable).getD "")

variable {root : Entries} {environment : Environment}

theorem Notes.ofEntries_eq_ok_iff {notes : Notes} :
    Notes.ofEntries root = .ok notes ↔ Opens root "log" ∧
      (∃ written, given root .level = .text written ∧
        notes.level = String.ofList (Text.upper written.toList)) ∧
      given root .toFile = .bool notes.toFile ∧
      given root .noteDirectory = .text notes.directory := by
  obtain ⟨level, toFile, directory⟩ := notes
  simp only [Notes.ofEntries, Result.bind_eq_ok_iff, sectionOf_eq_ok_iff,
    Result.mapError_eq_ok_iff, Value.expectText_eq_ok_iff, Value.expectBool_eq_ok_iff,
    Result.pure_eq_ok_iff, Notes.mk.injEq, given, Field.fallback, Field.key, Field.sectionName]
  constructor
  · intro read
    obtain ⟨_, ⟨opens, rfl⟩, written, level, _, toFile, _, directory, same, rfl, rfl⟩ := read
    exact ⟨opens, ⟨written, level, same.symm⟩, toFile, directory⟩
  · intro reads
    obtain ⟨opens, ⟨written, level, same⟩, toFile, directory⟩ := reads
    exact ⟨_, ⟨opens, rfl⟩, written, level, _, toFile, _, directory, same.symm, rfl, rfl⟩

theorem Server.ofEntries_eq_ok_iff {server : Server} :
    Server.ofEntries root environment = .ok server ↔ Opens root "server" ∧
      given root .tokenVariable = .text server.tokenVariable ∧
      given root .url = .text server.url ∧
      (given root .timeout = .real server.timeout ∨
        ∃ whole, given root .timeout = .int whole ∧
          Binary64.ofInt? whole = some server.timeout) ∧
      server.token = Text.trim ((environment.lookup server.tokenVariable).getD "") := by
  obtain ⟨url, tokenVariable, token, timeout⟩ := server
  simp only [Server.ofEntries, Result.bind_eq_ok_iff, sectionOf_eq_ok_iff,
    Result.mapError_eq_ok_iff, Value.expectText_eq_ok_iff, Value.expectReal_eq_ok_iff,
    Result.pure_eq_ok_iff, Server.mk.injEq, given, Field.fallback, Field.key, Field.sectionName]
  constructor
  · intro read
    obtain ⟨_, ⟨opens, rfl⟩, _, tokenVariable, _, url, _, timeout, rfl, rfl, token, rfl⟩ := read
    exact ⟨opens, tokenVariable, url, timeout, token.symm⟩
  · intro reads
    obtain ⟨opens, tokenVariable, url, timeout, token⟩ := reads
    exact ⟨_, ⟨opens, rfl⟩, _, tokenVariable, _, url, _, timeout, rfl, rfl, token.symm, rfl⟩

theorem Search.ofEntries_eq_ok_iff {search : Search} :
    Search.ofEntries root = .ok search ↔
      Opens root "search" ∧ given root .limit = .int search.limit := by
  obtain ⟨limit⟩ := search
  simp only [Search.ofEntries, Result.bind_eq_ok_iff, sectionOf_eq_ok_iff,
    Result.mapError_eq_ok_iff, Value.expectInt_eq_ok_iff, Result.pure_eq_ok_iff,
    Search.mk.injEq, given, Field.fallback, Field.key, Field.sectionName, Vocabulary.defaultLimit]
  constructor
  · intro read
    obtain ⟨_, ⟨opens, rfl⟩, _, limit, rfl⟩ := read
    exact ⟨opens, limit⟩
  · intro reads
    obtain ⟨opens, limit⟩ := reads
    exact ⟨_, ⟨opens, rfl⟩, _, limit, rfl⟩

theorem Output.ofEntries_eq_ok_iff {output : Output} :
    Output.ofEntries root = .ok output ↔ Opens root "output" ∧
      given root .resultDirectory = .text output.directory ∧
      ∃ written : List String, given root .formats = .list (written.map .text) ∧
        output.formats = written.map fun name =>
          String.ofList (Text.lower (Text.trim name).toList) := by
  obtain ⟨directory, formats⟩ := output
  simp only [Output.ofEntries, Result.bind_eq_ok_iff, sectionOf_eq_ok_iff,
    Result.mapError_eq_ok_iff, Value.expectText_eq_ok_iff, Value.expectTexts_eq_ok_iff,
    Result.pure_eq_ok_iff, Output.mk.injEq, given, Field.fallback, Field.key, Field.sectionName]
  constructor
  · intro read
    obtain ⟨_, ⟨opens, rfl⟩, written, formats, _, directory, rfl, same⟩ := read
    exact ⟨opens, directory, written, formats, same.symm⟩
  · intro reads
    obtain ⟨opens, directory, written, formats, same⟩ := reads
    exact ⟨_, ⟨opens, rfl⟩, written, formats, _, directory, rfl, same.symm⟩

/-- Each section is read and checked by itself. -/
theorem ofEntries_eq_ok_iff_sections {settings : Settings} :
    Settings.ofEntries root environment = .ok settings ↔
      (Notes.ofEntries root = .ok settings.notes ∧ settings.notes.check = .ok ()) ∧
      (Server.ofEntries root environment = .ok settings.server ∧
        settings.server.check = .ok ()) ∧
      (Search.ofEntries root = .ok settings.search ∧ settings.search.check = .ok ()) ∧
      (Output.ofEntries root = .ok settings.output ∧ settings.output.check = .ok ()) := by
  obtain ⟨notes, server, search, output⟩ := settings
  simp only [Settings.ofEntries, Result.bind_eq_ok_iff, Result.pure_eq_ok_iff, Settings.mk.injEq]
  constructor
  · intro read
    obtain ⟨_, notes, _, server, _, search, _, output, _, notesCheck, _, serverCheck, _,
      searchCheck, _, outputCheck, rfl, rfl, rfl, rfl⟩ := read
    exact ⟨⟨notes, notesCheck⟩, ⟨server, serverCheck⟩, ⟨search, searchCheck⟩, output, outputCheck⟩
  · intro reads
    obtain ⟨⟨notes, notesCheck⟩, ⟨server, serverCheck⟩, ⟨search, searchCheck⟩, output,
      outputCheck⟩ := reads
    exact ⟨_, notes, _, server, _, search, _, output, (), notesCheck, (), serverCheck, (),
      searchCheck, (), outputCheck, rfl, rfl, rfl, rfl⟩

/-- Settings are accepted if they are what the entries say and pass all checks. -/
theorem ofEntries_eq_ok_iff {settings : Settings} :
    Settings.ofEntries root environment = .ok settings ↔
      Reflects root environment settings ∧ settings.notes.check = .ok () ∧
        settings.server.check = .ok () ∧ settings.search.check = .ok () ∧
        settings.output.check = .ok () := by
  rw [ofEntries_eq_ok_iff_sections, Notes.ofEntries_eq_ok_iff, Server.ofEntries_eq_ok_iff,
    Search.ofEntries_eq_ok_iff, Output.ofEntries_eq_ok_iff]
  constructor
  · intro read
    obtain ⟨⟨⟨log, level, toFile, noteDirectory⟩, notesCheck⟩, ⟨⟨server, tokenVariable, url,
      timeout, token⟩, serverCheck⟩, ⟨⟨search, limit⟩, searchCheck⟩, ⟨output, resultDirectory,
      formats⟩, outputCheck⟩ := read
    refine ⟨⟨?_, fun field => ?_, token⟩, notesCheck, serverCheck, searchCheck, outputCheck⟩
    · simp only [sectionNames, List.forall_mem_cons, List.not_mem_nil, false_imp_iff,
        implies_true, and_true]
      exact ⟨log, server, search, output⟩
    · cases field with
      | level => exact level
      | toFile => exact toFile
      | noteDirectory => exact noteDirectory
      | url => exact url
      | tokenVariable => exact tokenVariable
      | timeout => exact timeout
      | limit => exact limit
      | resultDirectory => exact resultDirectory
      | formats => exact formats
  · intro reads
    obtain ⟨⟨opens, reads, token⟩, notesCheck, serverCheck, searchCheck, outputCheck⟩ := reads
    refine ⟨⟨⟨opens _ ?_, reads .level, reads .toFile, reads .noteDirectory⟩, notesCheck⟩,
      ⟨⟨opens _ ?_, reads .tokenVariable, reads .url, reads .timeout, token⟩, serverCheck⟩,
      ⟨⟨opens _ ?_, reads .limit⟩, searchCheck⟩,
      ⟨opens _ ?_, reads .resultDirectory, reads .formats⟩, outputCheck⟩ <;> decide

/-!
## Entries that are read alike
-/

section Congruence

variable {left right : Entries}

theorem Notes.ofEntries_congr (leftOpens : Opens left "log") (rightOpens : Opens right "log")
    (same : ∀ field : Field, (given left field).outside = (given right field).outside) :
    Notes.ofEntries left = Notes.ofEntries right := by
  have level := Value.eq_of_outside_eq (·.expectText "log.level") (fun _ => rfl) (same .level)
  have toFile := Value.eq_of_outside_eq (·.expectBool "log.to_file") (fun _ => rfl) (same .toFile)
  have directory := Value.eq_of_outside_eq (·.expectText "log.dir") (fun _ => rfl)
    (same .noteDirectory)
  simp only [given, Field.fallback, Field.key, Field.sectionName] at level toFile directory
  simp only [Notes.ofEntries, sectionOf_of_opens leftOpens, sectionOf_of_opens rightOpens, bind,
    Except.bind, level, toFile, directory]

theorem Server.ofEntries_congr (leftOpens : Opens left "server")
    (rightOpens : Opens right "server")
    (same : ∀ field : Field, (given left field).outside = (given right field).outside)
    (environment : Environment) :
    Server.ofEntries left environment = Server.ofEntries right environment := by
  have tokenVariable := Value.eq_of_outside_eq (·.expectText "server.token_env")
    (fun _ => rfl) (same .tokenVariable)
  have url := Value.eq_of_outside_eq (·.expectText "server.url") (fun _ => rfl) (same .url)
  have timeout := Value.eq_of_outside_eq (·.expectReal "server.timeout") (fun _ => rfl)
    (same .timeout)
  simp only [given, Field.fallback, Field.key, Field.sectionName] at tokenVariable url timeout
  simp only [Server.ofEntries, sectionOf_of_opens leftOpens, sectionOf_of_opens rightOpens, bind,
    Except.bind, tokenVariable, url, timeout]

theorem Search.ofEntries_congr (leftOpens : Opens left "search")
    (rightOpens : Opens right "search")
    (same : ∀ field : Field, (given left field).outside = (given right field).outside) :
    Search.ofEntries left = Search.ofEntries right := by
  have limit := Value.eq_of_outside_eq (·.expectInt "search.limit") (fun _ => rfl) (same .limit)
  simp only [given, Field.fallback, Field.key, Field.sectionName] at limit
  simp only [Search.ofEntries, sectionOf_of_opens leftOpens, sectionOf_of_opens rightOpens, bind,
    Except.bind, Vocabulary.defaultLimit, limit]

theorem Output.ofEntries_congr (leftOpens : Opens left "output")
    (rightOpens : Opens right "output")
    (same : ∀ field : Field, (given left field).outside = (given right field).outside) :
    Output.ofEntries left = Output.ofEntries right := by
  have formats := Value.eq_of_outside_eq (·.expectTexts "output.formats")
    (fun _ => rfl) (same .formats)
  have directory := Value.eq_of_outside_eq (·.expectText "output.base_dir")
    (fun _ => rfl) (same .resultDirectory)
  simp only [given, Field.fallback, Field.key, Field.sectionName] at formats directory
  simp only [Output.ofEntries, sectionOf_of_opens leftOpens, sectionOf_of_opens rightOpens, bind,
    Except.bind, formats, directory]

/-- What counts for the fields, as far as it shows, settles what is read or what is refused. -/
theorem ofEntries_congr (leftOpens : ∀ name ∈ sectionNames, Opens left name)
    (rightOpens : ∀ name ∈ sectionNames, Opens right name)
    (same : ∀ field : Field, (given left field).outside = (given right field).outside)
    (environment : Environment) :
    Settings.ofEntries left environment = Settings.ofEntries right environment := by
  rw [Settings.ofEntries, Settings.ofEntries,
    Notes.ofEntries_congr (leftOpens _ (by decide)) (rightOpens _ (by decide)) same,
    Server.ofEntries_congr (leftOpens _ (by decide)) (rightOpens _ (by decide)) same,
    Search.ofEntries_congr (leftOpens _ (by decide)) (rightOpens _ (by decide)) same,
    Output.ofEntries_congr (leftOpens _ (by decide)) (rightOpens _ (by decide)) same]

end Congruence

end Settings

end MediaSearch

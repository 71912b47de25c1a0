import MediaSearch.Command
import MediaSearch.Journal
import MediaSearch.Settings.Files

/-!
# The program

A run from the words of a command line to everything that it leaves behind. Settings are loaded
after the command is known and before its own words are looked at. What fails later is noted, and
nothing fails silently. How words, documents and dates are read is up to the surroundings.
-/

set_option autoImplicit false

namespace MediaSearch

namespace Program

/-- The readers of what is written elsewhere: command lines, documents, and dates. -/
structure Readers where
  words : Command.Reader := Command.readWords
  document : Settings.DocumentReader := Settings.yaml
  date : Moment.Reader := Moment.ofIsoText?

structure Surroundings where
  environment : Settings.Environment
  folder : Folder
  server : Server
  jitter : Binary64
  now : Moment
  zone : Moment.Zone := fun _ => 0
  readers : Readers := {}

/-- The present moment on the clocks of the place. -/
def Surroundings.localTime (surroundings : Surroundings) : Moment :=
  surroundings.now.toUniversal.inZone surroundings.zone

inductive Ending where
  | succeeded
  | failed
  | misused (error : Command.UsageError)
  | unsettled (error : Settings.LoadError)
  | unjournaled (error : Folder.Error)

/-- How a run ended, and what it left behind: printed text, the console with the notes, requests,
pauses, and the working folder. -/
structure Result where
  ending : Ending
  printed : String := ""
  console : String := ""
  requests : List Request := []
  pauses : List Binary64 := []
  folder : Folder

def options : List Command.OptionSpec := [⟨"config", .text, false⟩]

/-- The start of a command line: the path of the settings, the name of the command, and its words.
-/
structure Start where
  settings : Path
  name : Command.Name
  words : List String

/-- The path of the settings, which is not that of a folder. The empty text is not taken for one. -/
def settingsPath (folder : Folder) (given : Option String) : Except Command.UsageError Path :=
  match given with
  | none => .ok Settings.defaultPath
  | some text =>
      let path := Path.ofText text
      if folder.leadsToFolder path && !text.isEmpty then .error (.folderAsFile text) else .ok path

def Start.ofWords (read : Command.Reader) (folder : Folder) (words : List String) :
    Except Command.UsageError Start := do
  let ⟨values, others⟩ ← read options false words
  let settings ← settingsPath folder (Command.textOf? values "config")
  match others with
  | [] => throw .missingCommand
  | word :: rest =>
      match Command.Name.all.find? (·.word = word) with
      | some name => return ⟨settings, name, rest⟩
      | none => throw (.unknownCommand word)

/-- The library that settings describe, with a client for it. -/
def library (readers : Readers) (settings : Settings) (client : Client) : Library :=
  ⟨client, settings.search.limit, readers.date⟩

def perform (readers : Readers) (settings : Settings) (command : Command) : Action Unit := do
  Action.ofExcept .settings settings.server.checkToken
  let client ← Action.ofExcept id
    (Client.connect settings.server.url settings.server.token (.real settings.server.timeout))
  let reporter ← Action.ofExcept id (Reporter.ofSettings settings.output)
  command.execute (library readers settings client) reporter
  reporter.finish command.name.word

/-- Notes where the journal is kept, and does what a command says. A failure is noted, and the
answer tells whether there was none. -/
def work (readers : Readers) (settings : Settings) (command : Command) (file : Option Path) :
    StateM Session Bool := do
  if let some path := file then
    modify fun session =>
      { session with notes := session.notes ++ [⟨Note.detailLevel, "Logging to " ++ path.text⟩] }
  match ← (perform readers settings command).run with
  | .ok _ => return true
  | .error failure =>
      modify fun session =>
        { session with
          notes := session.notes ++ [⟨Note.errorLevel, "Search failed: " ++ failure.message⟩] }
      return false

def journalSetup (settings : Settings.Notes) (name : Command.Name) : Journal.Setup where
  level := settings.level
  activity := name.word
  toFile := settings.toFile
  directory := settings.directory

def runCommand (surroundings : Surroundings) (settings : Settings) (command : Command) : Result :=
  match Journal.setUp (journalSetup settings.notes command.name) surroundings.localTime
      { folder := surroundings.folder } with
  | .error error => { ending := .unjournaled error, folder := surroundings.folder }
  | .ok journal =>
      let (succeeded, session) := (work surroundings.readers settings command journal.file).run {
        server := surroundings.server
        now := surroundings.now.toUniversal
        zone := surroundings.zone
        jitter := surroundings.jitter
        folder := journal.folder }
      let journal := session.notes.foldl (Journal.note surroundings.localTime)
        { journal with folder := session.folder }
      { ending := if succeeded then .succeeded else .failed
        printed := session.printed
        console := journal.console ++ if succeeded then "" else "Aborted!\n"
        requests := session.requests
        pauses := session.pauses
        folder := journal.folder }

def run (surroundings : Surroundings) (words : List String) : Result :=
  let folder := surroundings.folder
  let readers := surroundings.readers
  match Start.ofWords readers.words folder words with
  | .error error => { ending := .misused error, folder }
  | .ok start =>
      match Settings.load readers.document folder start.settings Settings.defaultPath
          surroundings.environment with
      | .error error => { ending := .unsettled error, folder }
      | .ok settings =>
          match Command.ofWords readers.words start.name start.words with
          | .error error => { ending := .misused error, folder }
          | .ok command => runCommand surroundings settings command

def Ending.exitCode : Ending → UInt32
  | .succeeded => 0
  | .misused _ => 2
  | .failed | .unsettled _ | .unjournaled _ => 1

end Program

end MediaSearch

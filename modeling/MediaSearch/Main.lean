import MediaSearch.Program
import Std.Time.DateTime.Timestamp

/-!
# The command line

Runs the program on the machine: settings come from files and the environment, and the answers of
the server from standard input, one document a line. Requests go to standard error behind the
notes.
-/

set_option autoImplicit false

namespace MediaSearch.Program

/-- The working folder of the machine with the files at some paths in it. -/
def readFiles (paths : List Path) : IO Folder := do
  let home := (Path.ofText (← IO.currentDir).toString).names
  let mut folder : Folder := { home }
  for path in paths do
    try
      let text ← IO.FS.readFile path.text
      folder := { folder with
        files := (path.names.foldl Folder.follow (folder.start path), text) :: folder.files }
    catch _ => pure ()
  return folder

/-- The variable of the environment that settings name for the token, if it is set. -/
def readEnvironment (folder : Folder) (settings : Path) : IO Settings.Environment := do
  match Settings.load Settings.yaml folder settings Settings.defaultPath [] with
  | .error _ => return []
  | .ok loaded =>
      match ← IO.getEnv loaded.server.tokenVariable with
      | some token => return [(loaded.server.tokenVariable, token)]
      | none => return []

/-- The answers on the lines ahead, one body a line. -/
partial def readReplies (input : IO.FS.Stream) : IO (List PlannedReply) := do
  let line ← input.getLine
  if line.isEmpty then return []
  let body : Body := (Yaml.read line).mapError fun error => .malformed error.message
  return .response 200 "OK" (some body) :: (← readReplies input)

def readClock : IO Moment := do
  let seconds := (← Std.Time.Timestamp.now).toSecondsSinceUnixEpoch.val
  match Moment.ofUnixSeconds seconds with
  | .ok moment => return moment
  | .error _ => return ⟨⟨1970, 1, 1⟩, 0, 0, 0, 0, some 0⟩

def writeFiles (before after : Folder) : IO Unit := do
  for (location, text) in after.files do
    if (before.file? location).isNone then
      IO.FS.createDirAll ("/" ++ "/".intercalate location.dropLast)
      IO.FS.writeFile ("/" ++ "/".intercalate location) text

def Ending.message? : Ending → Option String
  | .misused error => some error.message
  | .unsettled error => some error.message
  | .unjournaled error => some error.message
  | _ => none

/-- Runs the program with the words of its command line, and gives the number that it ends with. -/
def main (words : List String) : IO UInt32 := do
  let settings := match Start.ofWords Command.readWords {} words with
    | .ok start => start.settings
    | .error _ => Settings.defaultPath
  let folder ← readFiles [Settings.defaultPath, settings]
  let result := run {
    environment := ← readEnvironment folder settings
    folder
    server := { planned := ← readReplies (← IO.getStdin) }
    jitter := Binary64.zero false
    now := ← readClock } words
  writeFiles folder result.folder
  IO.print result.printed
  IO.eprint result.console
  for request in result.requests do
    IO.eprintln ("GET " ++ request.url)
  if let some message := result.ending.message? then
    IO.eprintln message
  return result.ending.exitCode

end MediaSearch.Program

def main (words : List String) : IO UInt32 :=
  MediaSearch.Program.main words

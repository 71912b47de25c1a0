import MediaSearch.Folder
import MediaSearch.Moment
import MediaSearch.Text.LetterCase

/-!
# The journal

What a program notes while it works. Notes have levels; the console shows those from a threshold
on, and a file, if there is one, takes all from the level of details on. Setting the journal up
anew replaces both targets. Moments are given as the clocks of the place show them.
-/

set_option autoImplicit false

namespace MediaSearch

structure Note where
  level : Int
  text : String
  deriving DecidableEq, Repr

namespace Note

def detailLevel : Int := 10

def infoLevel : Int := 20

/-- The level of warnings. -/
def warningLevel : Int := 30

def errorLevel : Int := 40

def criticalLevel : Int := 50

/-- The levels by name. Some have two names. -/
def levels : List (String × Int) :=
  [("NOTSET", 0), ("DEBUG", detailLevel), ("INFO", infoLevel), ("WARN", warningLevel),
    ("WARNING", warningLevel), ("ERROR", errorLevel), ("CRITICAL", criticalLevel),
    ("FATAL", criticalLevel)]

/-- The level that a name in any letter case denotes; other names stand for what a user should see.
-/
def levelOf (name : String) : Int :=
  (levels.lookup (String.ofList (Text.upper name.toList))).getD infoLevel

/-- The four letters for a level. Levels without a name share theirs. -/
def abbreviation (level : Int) : String :=
  if level = detailLevel then "DEBG"
  else if level = infoLevel then "INFO"
  else if level = warningLevel then "WARN"
  else if level = errorLevel || level = criticalLevel then "ERRO"
  else "Leve"

def line (now : Moment) (note : Note) : String :=
  now.logStamp ++ " [" ++ abbreviation note.level ++ "] " ++ note.text ++ "\n"

end Note

/-- The targets of a journal, and what they hold: the text on the console, and the folder with the
files. -/
structure Journal where
  threshold : Int := Note.infoLevel
  file : Option Path := none
  console : String := ""
  folder : Folder := {}

namespace Journal

/-- How a journal is set up. A file needs an activity to be named for. -/
structure Setup where
  level : String := "INFO"
  activity : String := ""
  toFile : Bool := false
  directory : String := "log"

/-- The path of the file that a set-up asks for, below a folder for the activity. -/
def Setup.folderPath (setup : Setup) : Path :=
  (Path.ofText (if setup.directory.isEmpty then "log" else setup.directory)).join setup.activity

def Setup.fileName (setup : Setup) (now : Moment) : String :=
  setup.activity ++ "_" ++ now.logFileStamp ++ ".log"

/-- Sets the journal up anew. A file that is already there is continued. -/
def setUp (setup : Setup) (now : Moment) (journal : Journal) : Except Folder.Error Journal := do
  let threshold := Note.levelOf (if setup.level.isEmpty then "INFO" else setup.level)
  if setup.toFile && !setup.activity.isEmpty then
    let path := setup.folderPath.join (setup.fileName now)
    let folder ← (← journal.folder.make setup.folderPath).append path ""
    return { journal with threshold, file := some path, folder }
  else return { journal with threshold, file := none }

/-- The least level that is looked at. Without a file it is the threshold, and warnings where that
is nothing. -/
def leastLevel (journal : Journal) : Int :=
  if journal.file.isSome then Note.detailLevel
  else if journal.threshold = 0 then Note.warningLevel
  else journal.threshold

/-- Whether notes of a level are looked at. -/
def heeds (journal : Journal) (level : Int) : Bool :=
  0 < level && journal.leastLevel ≤ level

def fileLine (journal : Journal) (line : String) : Folder :=
  match journal.file with
  | none => journal.folder
  | some path =>
      match journal.folder.append path line with
      | .ok folder => folder
      | .error _ => journal.folder

def note (now : Moment) (journal : Journal) (note : Note) : Journal :=
  if journal.heeds note.level then
    let line := note.line now
    { journal with
      console := if journal.threshold ≤ note.level then journal.console ++ line
        else journal.console
      folder := if Note.detailLevel ≤ note.level then journal.fileLine line
        else journal.folder }
  else journal

end Journal

end MediaSearch

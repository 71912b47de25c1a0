import MediaSearch.Folder
import MediaSearch.Settings
import MediaSearch.Settings.Layers
import MediaSearch.Yaml.Document

/-!
# Settings in files

Settings are read from a file of defaults, which may be missing, and from a file that is laid over
it. The reader of documents is taken as it comes.
-/

set_option autoImplicit false

namespace MediaSearch.Settings

/-- A reader of documents. What it refuses it says in its own words. -/
abbrev DocumentReader := String → Except String Value

def yaml : DocumentReader := fun text => (Yaml.read text).mapError Yaml.Error.message

inductive LoadError where
  | settings (error : Error)
  | document (message : String)
  | file (error : Folder.Error)
  deriving DecidableEq

def LoadError.message : LoadError → String
  | .settings error => error.message
  | .document message => message
  | .file error => error.message

/-- The file of defaults. -/
def defaultPath : Path := ⟨"", ["config", "default.yml"]⟩

section Reader

variable (read : DocumentReader)

/-- The entries of a document. One that stands for nothing, false, zero or something empty has none,
and what else is no object is refused. -/
def rootOf (text : String) : Except LoadError Entries := do
  let value ← (read text).mapError .document
  if value.isFalsy then return []
  match value with
  | .object entries => return entries
  | _ => throw (.settings .notAnObject)

def defaultRoot (folder : Folder) (path : Path) : Except LoadError Entries :=
  if folder.has path then (folder.read path).mapError LoadError.file >>= rootOf read else .ok []

/-- The entries of a file over those of the file of defaults. If both are the same file, it may be
missing. -/
def layeredRoot (folder : Folder) (path defaults : Path) : Except LoadError Entries := do
  let base ← defaultRoot read folder defaults
  if path = defaults then return base
  let top ← rootOf read (← (folder.read path).mapError .file)
  return Entries.overlay base top

def load (folder : Folder) (path defaults : Path) (environment : Environment) :
    Except LoadError Settings := do
  (Settings.ofEntries (← layeredRoot read folder path defaults) environment).mapError .settings

end Reader

end MediaSearch.Settings

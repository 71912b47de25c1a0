import MediaSearch.Keyed
import MediaSearch.Path
import MediaSearch.Text.Quoted

/-!
# The working folder

Files and folders as a program finds them that works in one of the folders. Relative paths start in
the working folder, and anchored ones at the root.
-/

set_option autoImplicit false

namespace MediaSearch

/-- The names that lead to a file or folder from the root. -/
abbrev Location := List String

/-- Files with their texts, folders that were made, and where the working folder is. Writing a text
to a file may break off, for want of room say: then only so many of its characters are in the file,
and there are words for the reason. -/
structure Folder where
  files : List (Location × String) := []
  made : List Location := []
  home : Location := []
  breaksOff : Location → String → Option (Nat × String) := fun _ _ => none

namespace Folder

/-- Why a path cannot be used. -/
inductive Problem where
  | missing | exists | notAFolder | isAFolder
  /-- Writing broke off, and why it did. -/
  | brokenOff (reason : String)
  deriving DecidableEq, Repr

structure Error where
  problem : Problem
  path : Path
  deriving DecidableEq, Repr

def Problem.message : Problem → String
  | .missing => "[Errno 2] No such file or directory"
  | .exists => "[Errno 17] File exists"
  | .notAFolder => "[Errno 20] Not a directory"
  | .isAFolder => "[Errno 21] Is a directory"
  | .brokenOff reason => reason

/-- The message of an error. It names the path unless the file was open by then. -/
def Error.message (error : Error) : String :=
  match error.problem with
  | .brokenOff reason => reason
  | problem => problem.message ++ ": " ++ Text.quoted error.path.text

def file? (folder : Folder) (location : Location) : Option String :=
  folder.files.lookup location

/-- Whether there is a folder at a location: one that was made or lies on the way to one, one on the
way to a file, or the working folder or one around it. -/
def isFolder (folder : Folder) (location : Location) : Bool :=
  location.isPrefixOf folder.home || folder.made.any location.isPrefixOf ||
    folder.files.any fun file => location.isPrefixOf file.1 && location ≠ file.1

/-- Where a name leads from a location. Two dots lead back, and from the root to the root. -/
def follow (here : Location) (name : String) : Location :=
  if name = ".." then here.dropLast else here ++ [name]

/-- Follows names from a location on. Every name but the last must lead to a folder. -/
def walk (folder : Folder) (here : Location) : List String → Except Problem Location
  | [] => .ok here
  | name :: rest =>
      if (folder.file? here).isSome then .error .notAFolder
      else if !folder.isFolder here then .error .missing
      else walk folder (follow here name) rest

/-- Where the names of a path start. -/
def start (folder : Folder) (path : Path) : Location :=
  if path.anchor = "" then folder.home else []

def locate (folder : Folder) (path : Path) : Except Problem Location :=
  folder.walk (folder.start path) path.names

def leadsToFolder (folder : Folder) (path : Path) : Bool :=
  match folder.locate path with
  | .ok location => folder.isFolder location
  | .error _ => false

/-- Whether a path leads to anything. -/
def has (folder : Folder) (path : Path) : Bool :=
  match folder.locate path with
  | .ok location => folder.isFolder location || (folder.file? location).isSome
  | .error _ => false

def read (folder : Folder) (path : Path) : Except Error String :=
  match folder.locate path with
  | .error problem => .error ⟨problem, path⟩
  | .ok location =>
      match folder.file? location with
      | some text => .ok text
      | none => .error ⟨if folder.isFolder location then .isAFolder else .missing, path⟩

/-- The locations that names pass from a location on, the last of them included. -/
def passed (here : Location) : List String → List Location
  | [] => []
  | name :: rest => follow here name :: passed (follow here name) rest

/-- Makes the folder at a path and all folders on its way. A file that stands in the way is an
error. -/
def make (folder : Folder) (path : Path) : Except Error Folder :=
  let way := passed (folder.start path) path.names
  if way.dropLast.any fun location => (folder.file? location).isSome then
    .error ⟨.notAFolder, path⟩
  else if way.any fun location => (folder.file? location).isSome then .error ⟨.exists, path⟩
  else .ok { folder with made := folder.made ++ way }

def put (folder : Folder) (location : Location) (text : String) : Folder :=
  { folder with files := Keyed.put folder.files location text }

/-- Where the file at a path is, or would be. The folder of the file must be there. -/
def target (folder : Folder) (path : Path) : Except Error Location :=
  match folder.locate path with
  | .error problem => .error ⟨problem, path⟩
  | .ok location =>
      if folder.isFolder location then .error ⟨.isAFolder, path⟩ else .ok location

/-- Adds to the text of the file at a path, which is empty if there is none yet. -/
def append (folder : Folder) (path : Path) (text : String) : Except Error Folder := do
  let location ← folder.target path
  return folder.put location ((folder.file? location).getD "" ++ text)

/-- Writes a text to the file at a path, in place of what it held. A file that could be opened is
there also where writing breaks off. -/
def write (folder : Folder) (path : Path) (text : String) : Except Error Unit × Folder :=
  match folder.target path with
  | .error error => (.error error, folder)
  | .ok location =>
      match folder.breaksOff location text with
      | none => (.ok (), folder.put location text)
      | some (kept, reason) =>
          (.error ⟨.brokenOff reason, path⟩,
            folder.put location (String.ofList (text.toList.take kept)))

end Folder

end MediaSearch

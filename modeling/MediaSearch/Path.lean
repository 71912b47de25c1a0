import MediaSearch.Text.Parts

/-!
# Paths

Paths of files in their plain form: no empty names and no single dots. Two dots stay where they
are, since what they mean depends on the folders.
-/

set_option autoImplicit false

namespace MediaSearch

/-- A path: what it is anchored at, and the names that follow. A relative path has an empty anchor.
-/
structure Path where
  anchor : String
  names : List String
  deriving DecidableEq, Repr

namespace Path

/-- What a text is anchored at. Exactly two slashes in front are an anchor of their own. -/
def anchorOf : List Char → String
  | '/' :: '/' :: '/' :: _ => "/"
  | '/' :: '/' :: _ => "//"
  | '/' :: _ => "/"
  | _ => ""

def namesOf (text : List Char) : List String :=
  ((Text.parts '/' text).map String.ofList).filter fun name => name ≠ "" && name ≠ "."

def ofText (text : String) : Path :=
  ⟨anchorOf text.toList, namesOf text.toList⟩

/-- The path as text. The relative path without names is a dot. -/
def text (path : Path) : String :=
  if path.anchor = "" && path.names.isEmpty then "."
  else path.anchor ++ "/".intercalate path.names

/-- The path that leads on from another by a text. An anchored text starts over. -/
def join (path : Path) (text : String) : Path :=
  let further := ofText text
  if further.anchor = "" then ⟨path.anchor, path.names ++ further.names⟩ else further

end Path

end MediaSearch

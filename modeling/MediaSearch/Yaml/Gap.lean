/-!
# Gaps in scalars

Blanks and line ends inside of scalars. Blanks around line ends vanish; a single line end counts as
a blank, and further ones stay.
-/

set_option autoImplicit false

namespace MediaSearch.Yaml

/-- Whether a character ends a line. Carriage returns and the next-line control are already line
feeds when lines are looked at. -/
def isLineEnd (character : Char) : Bool :=
  character == '\n' || character == '\u2028' || character == '\u2029'

def isWhite (character : Char) : Bool :=
  character == ' ' || character == '\t' || isLineEnd character

def whiteFollows : List Char → Bool
  | [] => true
  | character :: _ => isWhite character

def unifyLineEnds : List Char → List Char
  | [] => []
  | '\r' :: '\n' :: rest => '\n' :: unifyLineEnds rest
  | '\r' :: rest => '\n' :: unifyLineEnds rest
  | '\u0085' :: rest => '\n' :: unifyLineEnds rest
  | character :: rest => character :: unifyLineEnds rest

inductive Gap where
  /-- Nothing. -/
  | none
  /-- Blanks on one line. -/
  | blanks (written : List Char)
  /-- A line end and those after it. -/
  | lines (first : Char) (more : List Char)
  /-- Line ends behind one that was taken back. -/
  | joined (more : List Char)

namespace Gap

def addBlank (gap : Gap) (blank : Char) : Gap :=
  match gap with
  | .none => .blanks [blank]
  | .blanks written => .blanks (written ++ [blank])
  | gap => gap

def addLineEnd (gap : Gap) (lineEnd : Char) : Gap :=
  match gap with
  | .none | .blanks _ => .lines lineEnd []
  | .lines first more => .lines first (more ++ [lineEnd])
  | .joined more => .joined (more ++ [lineEnd])

def crossesLines : Gap → Bool
  | .lines .. | .joined _ => true
  | _ => false

def text : Gap → List Char
  | .none => []
  | .blanks written => written
  | .lines first more =>
      if first = '\n' then (if more.isEmpty then [' '] else more) else first :: more
  | .joined more => more

end Gap

end MediaSearch.Yaml

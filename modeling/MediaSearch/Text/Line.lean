/-!
# Lines

The lines of a text, without what ends them. A carriage return and a line feed together end one
line, and a text that ends with a line end has no empty line after it.
-/

set_option autoImplicit false

namespace MediaSearch.Text

/-- Whether a character ends a line: line feed, vertical tab, form feed, carriage return, the
separators U+001C to U+001E, next line, and the line and paragraph separators. -/
def isLineEnd (character : Char) : Bool :=
  let code := character.toNat
  (10 ≤ code && code ≤ 13) || (0x1C ≤ code && code ≤ 0x1E) || code == 0x85
    || code == 0x2028 || code == 0x2029

def extendFirstLine (character : Char) : List (List Char) → List (List Char)
  | [] => [[character]]
  | line :: lines => (character :: line) :: lines

/-- The lines of a text in order. -/
def lines : List Char → List (List Char)
  | [] => []
  | '\r' :: '\n' :: rest => [] :: lines rest
  | character :: rest =>
      if isLineEnd character then [] :: lines rest else extendFirstLine character (lines rest)

end MediaSearch.Text

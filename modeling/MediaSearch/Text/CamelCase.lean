import MediaSearch.Text.LetterCase
import MediaSearch.Text.Parts

/-!
# Camel case

Names whose parts are joined by underscores, written as one word in which every part but the first
is capitalised.
-/

set_option autoImplicit false

namespace MediaSearch.Text

/-- A name of parts in camel case. The first part stays as it is. -/
def camelCase (name : List Char) : List Char :=
  match parts '_' name with
  | [] => []
  | first :: rest => first ++ rest.flatMap capitalize

end MediaSearch.Text

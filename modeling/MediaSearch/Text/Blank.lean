import MediaSearch.Text.CodeRange

/-!
# Blanks

Blank characters of every script, and texts without their outer blanks. The separators U+001C to
U+001F count as blanks in prose but not around a numeral.
-/

set_option autoImplicit false

namespace MediaSearch.Text

def blankRanges : CodeRanges := [
  (0x9, 0xD), (0x1C, 0x20), (0x85, 0x85), (0xA0, 0xA0), (0x1680, 0x1680),
  (0x2000, 0x200A), (0x2028, 0x2029), (0x202F, 0x202F), (0x205F, 0x205F), (0x3000, 0x3000)]

def isBlank (character : Char) : Bool :=
  blankRanges.contains character.toNat

/-- Whether a blank may stand around a numeral: every blank but the separators U+001C to U+001F. -/
def isNumeralBlank (character : Char) : Bool :=
  isBlank character && !(0x1C ≤ character.toNat && character.toNat ≤ 0x1F)

/-- The characters after the last one that is not dropped are removed. -/
def dropEndWhile (drops : Char → Bool) (characters : List Char) : List Char :=
  (characters.reverse.dropWhile drops).reverse

def trimWhile (drops : Char → Bool) (characters : List Char) : List Char :=
  dropEndWhile drops (characters.dropWhile drops)

def trim (text : String) : String :=
  String.ofList (trimWhile isBlank text.toList)

def trimEnd (text : String) : String :=
  String.ofList (dropEndWhile isBlank text.toList)

/-- Whether nothing but blanks is in the text. -/
def isBlankText (text : String) : Bool :=
  text.toList.all isBlank

end MediaSearch.Text

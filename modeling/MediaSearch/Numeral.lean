import MediaSearch.Text.Blank
import MediaSearch.Text.DecimalDigit

/-!
# Numerals

What integers and decimal fractions written as text have in common: blanks around them, a sign in
front, digits of any script, and single underscores between digits.
-/

set_option autoImplicit false

namespace MediaSearch.Numeral

open MediaSearch.Text

/-- Removes underscores that stand between two digits, told whether a digit stands just before.
Any other underscore spoils the numeral. -/
def joinDigits? (afterDigit : Bool) : List Char → Option (List Char)
  | [] => some []
  | ['_'] => none
  | '_' :: next :: rest =>
      if afterDigit && isDigit next then (joinDigits? true rest).map (next :: ·) else none
  | character :: rest => (joinDigits? (isDigit character) rest).map (character :: ·)

/-- Splits a sign off. The first part tells whether it is a minus. -/
def splitSign : List Char → Bool × List Char
  | '-' :: rest => (true, rest)
  | '+' :: rest => (false, rest)
  | unsigned => (false, unsigned)

/-- The sign and the unsigned part of a numeral, without outer blanks and underscores. -/
def parts? (text : List Char) : Option (Bool × List Char) :=
  (joinDigits? false (trimWhile isNumeralBlank text)).map splitSign

def spanDigits (text : List Char) : List Char × List Char :=
  (text.takeWhile isDigit, text.dropWhile isDigit)

end MediaSearch.Numeral

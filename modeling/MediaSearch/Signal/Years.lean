import MediaSearch.Phrase

/-!
# Signals of years

A decade is two digits with an `s`, bounds follow the words `from`, `before` and `after`, and a
year of the years 1900 to 2029 may stand alone as a word.
-/

set_option autoImplicit false

namespace MediaSearch.Signal

open MediaSearch.Phrase MediaSearch.Text

/-- What a text says about years: the first of each kind of phrase. -/
structure Years where
  decade : Option Nat
  since : Option Nat
  exact : Option Nat
  before : Option Nat
  after : Option Nat
  deriving DecidableEq, Repr

/-- Two digits and an `s` at the front of the text, with a blank or the end behind them. -/
def decadeHere? (text : List Char) : Option Nat := do
  let digits ← fixedDigits? 2 text
  match text.drop 2 with
  | ['s'] => some digits
  | 's' :: next :: _ => if isBlank next then some digits else none
  | _ => none

def yearBehind? (word : String) (text : List Char) : Option Nat := do
  fixedDigits? 4 (← afterBlanks? (← afterWord? [word] text))

/-- Whether the first two digits of a year and its third are those of the years 1900 to 2029. -/
def isRecentCentury : List Char → Bool
  | '1' :: '9' :: _ => true
  | '2' :: '0' :: third :: _ => third == '0' || third == '1' || third == '2'
  | _ => false

/-- A year of the years 1900 to 2029 at the front of the text that is a word of its own. -/
def loneYear? (before : Option Char) (text : List Char) : Option Nat :=
  if before.any isWordCharacter || !isRecentCentury text ||
      (text.drop 4).head?.any isWordCharacter then none
  else fixedDigits? 4 text

def years (text : List Char) : Years where
  decade := first decadeHere? text
  since := first (yearBehind? "from") text
  exact := firstAfter loneYear? none text
  before := first (yearBehind? "before") text
  after := first (yearBehind? "after") text

namespace Years

/-- The first year of the decade that two digits stand for: below thirty they count tens of years
from 2000, else from 1900. -/
def decadeStart (digits : Nat) : Int :=
  if digits < 30 then 2000 + digits * 10 else 1900 + digits * 10

def decadeYear (years : Years) : Option Int :=
  years.decade.map decadeStart

def exactYear (years : Years) : Option Int :=
  if years.decade.isSome || years.since.isSome then none
  else years.exact.map fun year => (year : Int)

/-- The first year that is asked for. What lies after a year starts with the next, and wins over
what starts from a year. -/
def minYear (years : Years) : Option Int :=
  (years.after.map fun year => (year : Int) + 1).or (years.since.map fun year => (year : Int))

/-- The last year that is asked for: what lies before a year ends with the one before it. -/
def maxYear (years : Years) : Option Int :=
  years.before.map fun year => (year : Int) - 1

end Years

end MediaSearch.Signal

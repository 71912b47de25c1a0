import MediaSearch.Phrase
import MediaSearch.Binary64.Text

/-!
# Signals with amounts

Bounds on ratings and durations, and how long ago items were added. Durations are taken in
minutes whatever unit the text names.
-/

set_option autoImplicit false

namespace MediaSearch.Signal

open MediaSearch.Phrase

/-- A decimal numeral at the front of the text. A point belongs to it only if a digit follows. -/
def decimalHere? (text : List Char) : Option Binary64 := do
  let (whole, rest) ← someDigits? text
  let fraction := match rest with
    | '.' :: behindPoint => (Numeral.spanDigits behindPoint).1
    | _ => []
  return Binary64.ofDigits whole fraction

/-- A word for ratings, a word for a bound and a numeral at the front of the text. -/
def ratingHere? (bounds : List String) (text : List Char) : Option Binary64 := do
  let bound ← afterWord? ["rated", "rate", "rating"] text
  decimalHere? (skipBlanks (← afterWord? bounds (skipBlanks bound)))

def minRating? (text : List Char) : Option Binary64 :=
  first (ratingHere? ["above", "over", ">", "greater than"]) text

def maxRating? (text : List Char) : Option Binary64 :=
  first (ratingHere? ["below", "under", "<", "less than"]) text

/-- A duration at the front of the text: an adjective by itself, or a preposition, digits and a
unit. The adjective has no digits. -/
def minutesHere? (adjective preposition : String) (text : List Char) : Option (List Char) :=
  match afterWord? [adjective] text with
  | some _ => some []
  | none => do
      let (digits, rest) ← someDigits? (← afterBlanks? (← afterWord? [preposition] text))
      let _ ← afterWord? ["min", "hour"] (skipBlanks rest)
      return digits

/-- A number of minutes: the digits, or what the adjective stands for. -/
def minutes (whenBare : Nat) (digits : List Char) : Except Integer.TooManyDigits Nat :=
  if digits.isEmpty then .ok whenBare else Integer.ofDigits digits

def maxMinutes? (text : List Char) : Except Integer.TooManyDigits (Option Nat) :=
  (first (minutesHere? "short" "under") text).mapM (minutes 90)

def minMinutes? (text : List Char) : Except Integer.TooManyDigits (Option Nat) :=
  (first (minutesHere? "long" "over") text).mapM (minutes 120)

/-- How long ago: digits, of which there may be none, and the days of a unit. -/
structure Recency where
  digits : List Char
  unitDays : Nat
  deriving DecidableEq, Repr

def unitDays? (text : List Char) : Option Nat :=
  [("day", 1), ("week", 7), ("month", 30)].findSome? fun unit =>
    (afterWord? [unit.1] text).map fun _ => unit.2

/-- A word for new items and a span of time at the front of the text, with small words between. -/
def recencyHere? (text : List Char) : Option Recency := do
  let behindNew ← afterWord? ["added", "new"] text
  let behindIn := skipBlanks (afterOptionalWord ["in"] (skipBlanks behindNew))
  let behindThe := skipBlanks (afterOptionalWord ["the"] behindIn)
  let behindLast := skipBlanks (afterOptionalWord ["last", "past"] behindThe)
  let (digits, rest) := Numeral.spanDigits behindLast
  let unit ← unitDays? (skipBlanks rest)
  return ⟨digits, unit⟩

/-- How long ago items may have been added. A word for new items without a span of time means one
week. -/
def recency? (text : List Char) : Option Recency :=
  (first recencyHere? text).or
    (if mentions text "recently added" || mentions text "new" then some ⟨[], 7⟩ else none)

/-- The days of a span of time. Without digits it is one unit. -/
def Recency.days (recency : Recency) : Except Integer.TooManyDigits Nat :=
  if recency.digits.isEmpty then .ok recency.unitDays
  else (Integer.ofDigits recency.digits).map (· * recency.unitDays)

/-- The number of days since which items have been added that a text asks for. -/
def addedWithinDays? (text : List Char) : Except Integer.TooManyDigits (Option Nat) :=
  (recency? text).mapM Recency.days

end MediaSearch.Signal

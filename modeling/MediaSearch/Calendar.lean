/-!
# Calendar

Dates of the proleptic Gregorian calendar. Days are counted from the first day of year 1, which
is a Monday and has the number zero.
-/

set_option autoImplicit false

namespace MediaSearch

/-- A day of a year of any sign. Months and days count from one. -/
structure Date where
  year : Int
  month : Nat
  day : Nat
  deriving DecidableEq, Repr

namespace Calendar

/-- Years have 366 days if they divide by four, unless they divide by 100 and not by 400. -/
def isLeap (year : Int) : Bool :=
  year % 4 == 0 && (year % 100 != 0 || year % 400 == 0)

def daysInMonth (year : Int) (month : Nat) : Nat :=
  if month = 2 then (if isLeap year then 29 else 28)
  else if [4, 6, 9, 11].contains month then 30
  else if 1 ≤ month && month ≤ 12 then 31
  else 0

/-- Days of a year that come before a month. -/
def daysBeforeMonth (year : Int) (month : Nat) : Nat :=
  (List.range' 1 (month - 1)).foldl (fun days earlier => days + daysInMonth year earlier) 0

def daysBeforeYear (year : Int) : Int :=
  365 * (year - 1) + (year - 1) / 4 - (year - 1) / 100 + (year - 1) / 400

def dayNumber (date : Date) : Int :=
  daysBeforeYear date.year + daysBeforeMonth date.year date.month + date.day - 1

/-- The month and day that so many days of a year lie before; months are tried in order. -/
def monthAndDay (year : Int) : (months : List Nat) → (days : Nat) → Nat × Nat
  | [], days => (12, days + 1)
  | month :: months, days =>
      if days < daysInMonth year month then (month, days + 1)
      else monthAndDay year months (days - daysInMonth year month)

/-- The date with a number. Whole spans of 400, 100, 4 and 1 years are taken off in turn; the last
day of a leap year is what the last two would count too far. -/
def dateOf (number : Int) : Date :=
  let cycles := number / 146097
  let inCycle := (number % 146097).toNat
  let centuries := Nat.min (inCycle / 36524) 3
  let inCentury := inCycle - centuries * 36524
  let quads := inCentury / 1461
  let inQuad := inCentury % 1461
  let years := Nat.min (inQuad / 365) 3
  let inYear := inQuad - years * 365
  let year : Int := 400 * cycles + 100 * centuries + 4 * quads + years + 1
  let (month, day) := monthAndDay year (List.range' 1 12) inYear
  ⟨year, month, day⟩

/-- The day of the week of a numbered day, with zero for Monday. -/
def weekday (number : Int) : Int :=
  number % 7

def isValidYear (year : Int) : Bool :=
  1 ≤ year && year ≤ 9999

/-- The date of a year, month and day, if there is one in the years that moments may lie in. -/
def date? (year month day : Int) : Option Date :=
  if isValidYear year && 1 ≤ month && month ≤ 12 && 1 ≤ day &&
      day ≤ daysInMonth year month.toNat then
    some ⟨year, month.toNat, day.toNat⟩
  else none

def validDateOf? (number : Int) : Option Date :=
  let date := dateOf number
  if isValidYear date.year then some date else none

end Calendar

end MediaSearch

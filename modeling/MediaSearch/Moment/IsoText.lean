import MediaSearch.Moment

/-!
# Reading ISO 8601

Dates by month and day, by week or by day of the year, with an optional time of day and offset.
Any character may stand between date and time. Fields are read as integers, so a field may hold
blanks, a sign or an underscore as long as it has the right width.
-/

set_option autoImplicit false

namespace MediaSearch.Moment

def field? (characters : List Char) : Option Int :=
  Integer.ofText? characters

def splitDash : List Char → Bool × List Char
  | '-' :: rest => (true, rest)
  | text => (false, text)

/-- Year, month and day as they were written, before it is known that they make a date. -/
structure DateFields where
  year : Int
  month : Int
  day : Int

/-- A year alone, a year and month with a dash, or year, month and day with two dashes or none.
Returns what follows too. -/
def calendarDate? (text : List Char) : Option (DateFields × List Char) := do
  if text.length < 4 then failure
  let year ← field? (text.take 4)
  let afterYear := text.drop 4
  if afterYear.isEmpty then return (⟨year, 1, 1⟩, [])
  let (dashed, monthOn) := splitDash afterYear
  if monthOn.length < 2 then failure
  let month ← field? (monthOn.take 2)
  let afterMonth := monthOn.drop 2
  if afterMonth.isEmpty then
    if dashed then return (⟨year, month, 1⟩, []) else failure
  let (dashedAgain, dayOn) := if dashed then splitDash afterMonth else (false, afterMonth)
  if dashed != dashedAgain || dayOn.length < 2 then failure
  let day ← field? (dayOn.take 2)
  return (⟨year, month, day⟩, dayOn.drop 2)

/-- The date of a day of an ISO week. The first week of a year holds the fourth of January. -/
def weekDate? (year week day : Int) : Option Date := do
  if !(0 < week && week < 54 && 0 < day && day < 8) then failure
  let fourth ← Calendar.date? year 1 4
  let number := Calendar.dayNumber fourth
  Calendar.validDateOf? (number - Calendar.weekday number + (week - 1) * 7 + (day - 1))

def yearDayDate? (year day : Int) : Option Date := do
  if day < 1 || 365 + (if Calendar.isLeap year then 1 else 0) < day then failure
  let first ← Calendar.date? year 1 1
  Calendar.validDateOf? (Calendar.dayNumber first + day - 1)

def weekOrYearDayDate? (text : List Char) : Option (DateFields × List Char) := do
  if text.length < 4 then failure
  let year ← field? (text.take 4)
  let (dashed, rest) := splitDash (text.drop 4)
  let (date, rest) ← (match rest with
    | 'W' :: weekOn => do
        let week ← field? (weekOn.take 2)
        let afterWeek := weekOn.drop 2
        if afterWeek.isEmpty then (weekDate? year week 1).map (·, [])
        else
          let (dashedAgain, dayOn) := splitDash afterWeek
          if dashed != dashedAgain then failure
          let day ← field? (dayOn.take 1)
          (weekDate? year week day).map (·, dayOn.drop 1)
    | dayOn => do
        if dayOn.length < 3 then failure
        let day ← field? (dayOn.take 3)
        (yearDayDate? year day).map (·, dayOn.drop 3) : Option (Date × List Char))
  return (⟨date.year, date.month, date.day⟩, rest)

structure TimeFields where
  hour : Int := 0
  minute : Int := 0
  second : Int := 0
  microsecond : Nat := 0
  offset : Option Int := none

def startsOffset (character : Char) : Bool :=
  character == '-' || character == '+' || character == 'Z' || character == 'z'

/-- An offset in seconds: a letter for universal time, or a sign, two characters of hours and, with
a colon or without, minutes. -/
def offset? (text : List Char) : Option Int := do
  if text = ['Z'] || text = ['z'] then return 0
  if !(text.length = 3 || text.length = 5 || text.length = 6) then failure
  let negative ← match text.head? with
    | some '-' => some true
    | some '+' => some false
    | _ => none
  let hours ← field? ((text.drop 1).take 2)
  let minutesOn := match text.drop 3 with
    | ':' :: rest => rest
    | rest => rest
  let minutes ← if text.length = 3 then some 0 else field? minutesOn
  if 59 < minutes || 23 < hours then failure
  let total := (hours * 60 + minutes) * 60
  return if negative then -total else total

/-- What may still follow in a time: nothing, or an offset. -/
def finishTime? (time : TimeFields) : List Char → Option TimeFields
  | [] => some time
  | text@(character :: _) =>
      if startsOffset character then
        (offset? text).map fun offset => { time with offset := some offset }
      else none

/-- A fraction of a second in microseconds, of which further digits are dropped, and then the end.
-/
def fractionOn? (time : TimeFields) (text : List Char) : Option TimeFields :=
  match text with
  | mark :: rest =>
      let digits := rest.takeWhile Char.isDigit
      if (mark == '.' || mark == ',') && !digits.isEmpty then
        let kept := digits.take 6
        let microsecond := Text.digitsValue kept * Nat.pow 10 (6 - kept.length)
        finishTime? { time with microsecond } (rest.drop digits.length)
      else finishTime? time text
  | [] => some time

/-- Seconds and what follows them. Between minutes and seconds stands a colon exactly if one stands
between hours and minutes. -/
def secondOn? (time : TimeFields) (colon : Bool) (text : List Char) : Option TimeFields := do
  match text with
  | [] => return time
  | character :: rest =>
      if startsOffset character then finishTime? time text
      else
        if colon && character != ':' then failure
        let secondOn := if colon then rest else text
        let second ← field? (secondOn.take 2)
        fractionOn? { time with second } (secondOn.drop 2)

def minuteOn? (time : TimeFields) (text : List Char) : Option TimeFields := do
  match text with
  | [] => return time
  | character :: rest =>
      if startsOffset character then finishTime? time text
      else
        let colon := character == ':'
        let minuteOn := if colon then rest else text
        let minute ← field? (minuteOn.take 2)
        secondOn? { time with minute } colon (minuteOn.drop 2)

/-- A time of day with an optional offset. Twenty-four o'clock is allowed for midnight only. -/
def time? (text : List Char) : Option TimeFields := do
  if text.length < 2 then failure
  let time ←
    if text.head?.any startsOffset then finishTime? {} text
    else do
      let hour ← field? (text.take 2)
      minuteOn? { hour } (text.drop 2)
  if time.hour = 24 && (time.minute != 0 || time.second != 0 || time.microsecond != 0) then failure
  return time

/-- The moment of a date and a time as written, if there is one. Twenty-four o'clock is the start of
the next day. -/
def ofFields? (day : DateFields) (time : TimeFields) : Option Moment := do
  let date ← Calendar.date? day.year day.month day.day
  let late := time.hour = 24
  let hour := if late then 0 else time.hour
  if !(0 ≤ hour && hour < 24 && 0 ≤ time.minute && time.minute < 60 && 0 ≤ time.second &&
      time.second < 60) then failure
  let date ← if late then Calendar.validDateOf? (Calendar.dayNumber date + 1) else some date
  return ⟨date, hour.toNat, time.minute.toNat, time.second.toNat, time.microsecond, time.offset⟩

/-- Reads a date with an optional time of day. A date that can be read by month and day is not read
by week or day of the year. Only the basic alphabet is admitted. -/
def ofIsoText? (text : String) : Option Moment := do
  let characters := text.toList
  if !characters.all (·.toNat < 128) then failure
  let (day, rest) ← match calendarDate? characters with
    | some read => some read
    | none => weekOrYearDayDate? characters
  let time ← match rest with
    | [] => some {}
    | _ :: afterSeparator => time? afterSeparator
  ofFields? day time

end MediaSearch.Moment

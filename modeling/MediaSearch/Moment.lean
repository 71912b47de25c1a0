import MediaSearch.Calendar
import MediaSearch.Integer

/-!
# Moments

Points in time as a date and a time of day, with or without a distance from universal time.
-/

set_option autoImplicit false

namespace MediaSearch

/-- A date and a time of day. The offset counts seconds ahead of universal time; a moment without
one leaves its place open. -/
structure Moment where
  date : Date
  hour : Nat
  minute : Nat
  second : Nat
  microsecond : Nat
  offset : Option Int
  deriving DecidableEq, Repr

namespace Moment

/-- The number of the day that Unix time counts from. -/
def unixEpochDay : Int := 719162

/-- Microseconds of Unix time. A moment without offset counts as universal time. -/
def unixMicroseconds (moment : Moment) : Int :=
  let days := Calendar.dayNumber moment.date - unixEpochDay
  let seconds := ((days * 24 + moment.hour) * 60 + moment.minute) * 60 + moment.second
  (seconds - moment.offset.getD 0) * 1000000 + moment.microsecond

/-- The time of day that so many seconds of a date come to, in universal time. -/
def ofSecondOfDay (date : Date) (seconds microsecond : Nat) : Moment :=
  ⟨date, seconds / 3600, seconds / 60 % 60, seconds % 60, microsecond, some 0⟩

/-- The instant of a moment on clocks that are so many seconds ahead of universal time. -/
def atOffset (moment : Moment) (offset : Int) : Moment :=
  let seconds := moment.unixMicroseconds / 1000000 + offset
  { ofSecondOfDay (Calendar.dateOf (seconds / 86400 + unixEpochDay)) (seconds % 86400).toNat
      moment.microsecond with offset := some offset }

def toUniversal (moment : Moment) : Moment :=
  moment.atOffset 0

/-- How many seconds the clocks of a place are ahead of universal time, at each second of Unix time.
-/
abbrev Zone := Int → Int

/-- The instant of a moment on the clocks of a place. -/
def inZone (moment : Moment) (zone : Zone) : Moment :=
  moment.atOffset (zone (moment.unixMicroseconds / 1000000))

inductive RangeError where
  /-- The number does not fit into 64 bits. -/
  | secondsTooLarge
  /-- The year does not fit into 32 bits, counted from 1900. -/
  | yearTooLarge
  /-- The year is not one that moments may lie in. The number is its value in 32 bits. -/
  | yearOutOfRange (year : Int)
  deriving DecidableEq, Repr

def RangeError.message : RangeError → String
  | .secondsTooLarge => "timestamp out of range for platform time_t"
  | .yearTooLarge => "[Errno 75] Value too large for defined data type"
  | .yearOutOfRange year => "year " ++ Integer.text year ++ " is out of range"

def fitsBits (bits : Nat) (value : Int) : Bool :=
  -(Nat.pow 2 (bits - 1) : Nat) ≤ value && value < (Nat.pow 2 (bits - 1) : Nat)

/-- The moment that lies so many seconds after the start of Unix time, in universal time. -/
def ofUnixSeconds (seconds : Int) : Except RangeError Moment :=
  if !fitsBits 64 seconds then .error .secondsTooLarge
  else
    let date := Calendar.dateOf (seconds / 86400 + unixEpochDay)
    if !fitsBits 32 (date.year - 1900) then .error .yearTooLarge
    else if Calendar.isValidYear date.year then
      .ok (ofSecondOfDay date (seconds % 86400).toNat 0)
    else .error (.yearOutOfRange (Int.bmod date.year (Nat.pow 2 32)))

/-!
## Writing
-/

/-- A number with at least so many digits. -/
def padded (width value : Nat) : String :=
  String.ofList (Integer.paddedDigits width value)

/-- Hours and minutes of an offset, and its seconds if there are any. -/
def offsetText (offset : Int) : String :=
  let seconds := offset.natAbs
  (if offset < 0 then "-" else "+") ++ padded 2 (seconds / 3600) ++ ":" ++
    padded 2 (seconds / 60 % 60) ++ (if seconds % 60 = 0 then "" else ":" ++ padded 2 (seconds % 60))

/-- The moment in the extended format of ISO 8601, with a fraction only if it is not zero and an
offset only if there is one. -/
def isoText (moment : Moment) : String :=
  padded 4 moment.date.year.toNat ++ "-" ++ padded 2 moment.date.month ++ "-" ++
    padded 2 moment.date.day ++ "T" ++ padded 2 moment.hour ++ ":" ++ padded 2 moment.minute ++
    ":" ++ padded 2 moment.second ++
    (if moment.microsecond = 0 then "" else "." ++ padded 6 moment.microsecond) ++
    (moment.offset.map offsetText).getD ""

def monthDayDigits (moment : Moment) : String :=
  padded 2 moment.date.month ++ padded 2 moment.date.day

def clockDigits (moment : Moment) : String :=
  padded 2 moment.hour ++ padded 2 moment.minute ++ padded 2 moment.second

def logStamp (moment : Moment) : String :=
  padded 2 moment.date.month ++ "-" ++ padded 2 moment.date.day ++ " " ++ padded 2 moment.hour ++
    ":" ++ padded 2 moment.minute ++ ":" ++ padded 2 moment.second

def logFileStamp (moment : Moment) : String :=
  moment.monthDayDigits ++ moment.clockDigits

def resultFileStamp (moment : Moment) : String :=
  Integer.text moment.date.year ++ moment.monthDayDigits ++ "_" ++ moment.clockDigits

/-- A reader of written moments. -/
abbrev Reader := String → Option Moment

end Moment

end MediaSearch

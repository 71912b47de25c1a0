import MediaSearch.Moment.IsoText
import MediaSearch.Text.Parts
import MediaSearch.Value
import MediaSearch.Yaml.Scalar

/-!
# Words

What plain scalars stand for: nothing, truth values, integers, numbers, dates, and otherwise
themselves. Underscores may stand among digits. Numbers need a point; integers may be written to the
bases two, eight, ten, sixteen and sixty.
-/

set_option autoImplicit false

namespace MediaSearch.Yaml

def nullWords : List String := ["", "~", "null", "Null", "NULL"]

def trueWords : List String :=
  ["yes", "Yes", "YES", "true", "True", "TRUE", "on", "On", "ON"]

/-- The words for false. -/
def falseWords : List String :=
  ["no", "No", "NO", "false", "False", "FALSE", "off", "Off", "OFF"]

def isPlainDigit (character : Char) : Bool :=
  '0' ≤ character && character ≤ '9'

def isDigitOrJoint (character : Char) : Bool :=
  isPlainDigit character || character == '_'

/-- Whether a text is digits and underscores and starts with a digit. -/
def isDigitRun : List Char → Bool
  | [] => false
  | first :: rest => isPlainDigit first && rest.all isDigitOrJoint

def isDigits (text : List Char) : Bool :=
  !text.isEmpty && text.all isPlainDigit

def withoutJoints (text : List Char) : List Char :=
  text.filter (· != '_')

/-- The integer that digits denote to a base. There must be a digit. -/
def ofBase? (base : Nat) (text : List Char) : Option Nat :=
  if (withoutJoints text).isEmpty then none
  else (withoutJoints text).foldlM (fun value digit =>
    (hexValue? digit).map (base * value + ·)) 0

/-- Whether a text is a digit of base sixty: one or two digits below sixty. -/
def isSixtieth (text : List Char) : Bool :=
  isDigits text && text.length ≤ 2 && Text.digitsValue text < 60

/-- An unsigned integer. The first answer tells whether the text is written as one, the second which
it is; a text may be written as one and denote none. -/
def unsigned? (text : List Char) : Option (Option Nat) :=
  match text with
  | '0' :: 'b' :: digits =>
      if !digits.isEmpty && digits.all fun digit => digit == '0' || digit == '1' || digit == '_'
      then some (ofBase? 2 digits) else none
  | '0' :: 'x' :: digits =>
      if !digits.isEmpty && digits.all fun digit => (hexValue? digit).isSome || digit == '_'
      then some (ofBase? 16 digits) else none
  | '0' :: digits =>
      if digits.all fun digit => '0' ≤ digit && digit ≤ '7' || digit == '_'
      then some (ofBase? 8 text) else none
  | text =>
      match Text.parts ':' text with
      | [] => none
      | first :: sixtieths =>
          if isDigitRun first && sixtieths.all isSixtieth then
            some ((Integer.ofDigits (withoutJoints first)).toOption.map fun whole =>
              sixtieths.foldl (fun value part => 60 * value + Text.digitsValue part) whole)
          else none

/-- Whether a text is nothing or an exponent with its sign. -/
def isExponent : List Char → Bool
  | [] => true
  | mark :: sign :: digits =>
      (mark == 'e' || mark == 'E') && (sign == '-' || sign == '+') && isDigits digits
  | _ => false

/-- Whether an unsigned text is a number to the base ten. Only with digits before the point may it
have a sign. -/
def isDecimal (signed : Bool) (text : List Char) : Bool :=
  let whole := text.takeWhile isDigitOrJoint
  match text.dropWhile isDigitOrJoint with
  | '.' :: rest =>
      let fraction := rest.takeWhile isDigitOrJoint
      isExponent (rest.dropWhile isDigitOrJoint) &&
        (isDigitRun whole || !signed && whole.isEmpty && isDigitRun fraction)
  | _ => false

/-- The unsigned number to the base sixty that a text denotes, with a fraction at the end. -/
def sixtiethsNumber? (text : List Char) : Option Binary64 :=
  let beforePoint := text.takeWhile (· != '.')
  match text.dropWhile (· != '.'), Text.parts ':' beforePoint with
  | '.' :: fraction, first :: second :: sixtieths =>
      if fraction.all isDigitOrJoint && isDigitRun first &&
          (second :: sixtieths).all isSixtieth then
        let digits := (Text.parts ':' (withoutJoints text)).map fun part =>
          (Binary64.ofText? part).getD .nan
        some (digits.reverse.foldl (fun (sum : Binary64 × Int) digit =>
          (sum.1.add (digit.mul (Binary64.ofInt sum.2)), 60 * sum.2))
          (Binary64.zero false, 1)).1
      else none
  | _, _ => none

/-- The number that a text denotes, if it is written as one. -/
def real? (text : List Char) : Option Binary64 :=
  let (negative, unsigned) := Numeral.splitSign text
  let signed := unsigned.length < text.length
  let word := String.ofList unsigned
  if word ∈ [".inf", ".Inf", ".INF"] then some (.infinite negative)
  else if !signed && word ∈ [".nan", ".NaN", ".NAN"] then some .nan
  else if isDecimal signed unsigned then Binary64.ofText? (withoutJoints text)
  else
    (sixtiethsNumber? unsigned).map fun number => if negative then number.neg else number

/-- Digits at the start of a text, as few and as many as given, and what follows. -/
def digitsHere? (least most : Nat) (text : List Char) : Option (Nat × List Char) :=
  let digits := (text.take most).takeWhile isPlainDigit
  if digits.length < least then none
  else some (Text.digitsValue digits, text.drop digits.length)

def behind? (character : Char) : List Char → Option (List Char)
  | [] => none
  | first :: rest => if first = character then some rest else none

/-- The offset at the end of a time stamp: none, the letter for universal time, or hours and minutes
with a sign. -/
def stampOffset? (text : List Char) : Option (Option Int) :=
  match text.dropWhile fun character => character == ' ' || character == '\t' with
  | [] => if text.isEmpty then some none else none
  | ['Z'] => some (some 0)
  | sign :: rest => do
      if sign != '+' && sign != '-' then none
      let (hours, rest) ← digitsHere? 1 2 rest
      let minutes ← match rest with
        | [] => some 0
        | ':' :: rest => do
            let (minutes, rest) ← digitsHere? 2 2 rest
            if rest.isEmpty then some minutes else none
        | _ => none
      let offset : Int := 60 * hours + minutes
      some (some (if sign = '-' then -offset else offset))

def stampTime? (text : List Char) : Option Moment.TimeFields := do
  let rest ← match text with
    | 'T' :: rest | 't' :: rest => some rest
    | ' ' :: rest | '\t' :: rest =>
        some (rest.dropWhile fun character => character == ' ' || character == '\t')
    | _ => none
  let (hour, rest) ← digitsHere? 1 2 rest
  let (minute, rest) ← digitsHere? 2 2 (← behind? ':' rest)
  let (second, rest) ← digitsHere? 2 2 (← behind? ':' rest)
  let (fraction, rest) := match rest with
    | '.' :: rest => (rest.takeWhile isPlainDigit, rest.dropWhile isPlainDigit)
    | rest => ([], rest)
  let microsecond := Text.digitsValue ((fraction ++ List.replicate 6 '0').take 6)
  let offset ← stampOffset? rest
  some {
    hour := (hour : Int)
    minute := (minute : Int)
    second := (second : Int)
    microsecond
    offset }

/-- A time stamp. The first answer tells whether the text is written as one, the second the form in
which it is kept; a text may be written as one and denote none. -/
def timestamp? (text : List Char) : Option (Option String) := do
  let (year, rest) ← digitsHere? 4 4 text
  let (month, afterMonth) ← digitsHere? 1 2 (← behind? '-' rest)
  let (day, afterDay) ← digitsHere? 1 2 (← behind? '-' afterMonth)
  if afterDay.isEmpty then
    if text.length = 10 then
      some ((Calendar.date? (year : Int) (month : Int) (day : Int)).map fun date =>
        String.ofList ((Moment.isoText ⟨date, 0, 0, 0, 0, none⟩).toList.take 10))
    else none
  else
    let time ← stampTime? afterDay
    if time.hour < 24 then
      some ((Moment.ofFields? ⟨year, month, day⟩ time).map Moment.isoText)
    else some none

/-- What a plain scalar stands for, unless it is written as something that it does not denote. -/
def ofPlain? (text : List Char) : Option Value :=
  let word := String.ofList text
  if word ∈ nullWords then some .null
  else if word ∈ trueWords then some (.bool true)
  else if word ∈ falseWords then some (.bool false)
  else if word = "<<" || word = "=" then none
  else
    match real? text with
    | some number => some (.real number)
    | none =>
        let (negative, unsigned) := Numeral.splitSign text
        match unsigned? unsigned with
        | some value =>
            value.map fun value => .int (if negative then -(value : Int) else value)
        | none =>
            match timestamp? text with
            | some written => written.map .timestamp
            | none => some (.text word)

end MediaSearch.Yaml

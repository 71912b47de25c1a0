import MediaSearch.Binary64
import MediaSearch.Integer

/-!
# Floating point numbers as text

A number is written with the fewest decimal digits that are read back as the same number, and of
these with the digits nearest to it. Reading rounds the exact decimal value.
-/

set_option autoImplicit false

namespace MediaSearch.Binary64

open MediaSearch.Text

/-!
## Shortest digits
-/

/-- A power of ten, of either sign. -/
def tenPower (exponent : Int) : Rat :=
  mkRat (Nat.pow 10 exponent.toNat : Nat) (Nat.pow 10 (-exponent).toNat)

/-- The distance to the next greater number. -/
def Finite.unit (number : Finite) : Rat :=
  mkRat (Nat.pow 2 number.exponent.toNat : Nat) (Nat.pow 2 (-number.exponent).toNat)

/-- Whether a positive rational is read back as the number, its sign apart: it lies nearer to it
than to its neighbours, or half way and the significand is even. Below a power of two the neighbour
is twice as near. -/
def Finite.isNearest (number : Finite) (value : Rat) : Bool :=
  let below := if number.significand = Nat.pow 2 52 && number.exponent != -1074 then number.unit / 4
    else number.unit / 2
  let low := number.magnitude - below
  let high := number.magnitude + number.unit / 2
  if number.significand % 2 = 0 then low ≤ value && value ≤ high
  else low < value && value < high

/-- How many decimal digits stand before the point; not above zero for numbers below one, counting
the zeros after the point. -/
def Finite.decimalOrder (number : Finite) : Int :=
  let magnitude := number.magnitude
  if 1 ≤ magnitude then (Integer.digits magnitude.floor.toNat).length
  else 1 - ((Integer.digits (magnitude.den / magnitude.num.toNat)).length : Int)

/-- The better of the two multiples of a power of ten around the number: the one that is read
back, of two the nearer, and of two as near the even one. -/
def Finite.gridDigits? (number : Finite) (scale : Int) : Option Nat :=
  let lower := (number.magnitude / tenPower scale).floor.toNat
  let lowerValue := (lower : Rat) * tenPower scale
  let upperValue := ((lower + 1 : Nat) : Rat) * tenPower scale
  match number.isNearest lowerValue, number.isNearest upperValue with
  | false, false => none
  | true, false => some lower
  | false, true => some (lower + 1)
  | true, true =>
      let toLower := number.magnitude - lowerValue
      let toUpper := upperValue - number.magnitude
      if toLower < toUpper then some lower
      else if toUpper < toLower then some (lower + 1)
      else some (lower + lower % 2)

/-- Digits and the power of ten that they count, with at least `18 - more` and at most 17 digits.
Seventeen digits always suffice, so the last resort is not reached. -/
def Finite.shortestFrom (number : Finite) : (more : Nat) → Nat × Int
  | 0 =>
      let scale := number.decimalOrder - 17
      ((number.magnitude / tenPower scale).floor.toNat, scale)
  | more + 1 =>
      let scale := number.decimalOrder - (17 - more : Nat)
      match number.gridDigits? scale with
      | some digits => (digits, scale)
      | none => number.shortestFrom more

/-- The fewest digits that are read back as the number, and the power of ten that they count. -/
def Finite.shortest (number : Finite) : Nat × Int :=
  number.shortestFrom 17

/-!
## Writing
-/

structure Layout where
  leastPositional : Int
  /-- The first decimal exponent that is written with an exponent again. -/
  firstScientific : Int
  infinity : String
  notANumber : String

/-- Digits with a point after the first `order` of them, filled up with zeros on either side. A
whole number keeps one digit after the point. -/
def positional (digits : List Char) (order : Int) : List Char :=
  if order ≤ 0 then '0' :: '.' :: List.replicate (-order).toNat '0' ++ digits
  else
    let whole := digits.take order.toNat
    let fraction := digits.drop order.toNat
    whole ++ List.replicate (order.toNat - whole.length) '0' ++
      '.' :: (if fraction.isEmpty then ['0'] else fraction)

/-- Digits with a point after the first of them and a decimal exponent of at least two digits. A
single digit has no point. -/
def scientific (digits : List Char) (exponent : Int) : List Char :=
  let mantissa := match digits with
    | first :: second :: rest => first :: '.' :: second :: rest
    | short => short
  mantissa ++ 'e' :: (if exponent < 0 then '-' else '+') ::
    Integer.paddedDigits 2 exponent.natAbs

def significantDigits (digits : List Char) : List Char :=
  match dropEndWhile (· == '0') digits with
  | [] => ['0']
  | significant => significant

def Finite.characters (layout : Layout) (number : Finite) : List Char :=
  if number.significand = 0 then ['0', '.', '0']
  else
    let (digits, scale) := number.shortest
    let written := Integer.digits digits
    let order := (written.length : Int) + scale
    if layout.leastPositional ≤ order - 1 && order - 1 < layout.firstScientific then
      positional (significantDigits written) order
    else scientific (significantDigits written) (order - 1)

def textAs (layout : Layout) : Binary64 → String
  | .finite number =>
      String.ofList ((if number.negative then ['-'] else []) ++ number.characters layout)
  | .infinite negative => (if negative then "-" else "") ++ layout.infinity
  | .nan => layout.notANumber

/-- Numbers in messages and texts: positional from 0.0001 up to 16 digits before the point. -/
def plainLayout : Layout := ⟨-4, 16, "inf", "nan"⟩

def text (number : Binary64) : String :=
  textAs plainLayout number

/-- A number with a fixed count of decimal places, a tie going to the even last digit. -/
def fixedText (places : Nat) : Binary64 → String
  | .finite number =>
      let scaled :=
        roundQuotient (number.magnitude.num.natAbs * Nat.pow 10 places) number.magnitude.den
      let digits := Integer.paddedDigits (places + 1) scaled
      let whole := digits.take (digits.length - places)
      let fraction := digits.drop (digits.length - places)
      String.ofList ((if number.negative then ['-'] else []) ++ whole ++
        (if places = 0 then [] else '.' :: fraction))
  | .infinite negative => if negative then "-inf" else "inf"
  | .nan => "nan"

/-!
## Reading
-/

/-- A decimal numeral: digits and the power of ten that they count. -/
structure Decimal where
  digits : List Char
  scale : Int

/-- The number nearest to a decimal numeral. Powers of ten far outside of the range are settled by
the order of magnitude alone. -/
def ofDecimal (negative : Bool) (decimal : Decimal) : Binary64 :=
  let significand := digitsValue decimal.digits
  let order := ((Integer.digits significand).length : Int) + decimal.scale
  if significand = 0 then zero negative
  else if 310 < order then .infinite negative
  else if order < -330 then zero negative
  else ofQuotient negative (significand * Nat.pow 10 decimal.scale.toNat)
    (Nat.pow 10 (-decimal.scale).toNat)

def ofDigits (whole fraction : List Char) : Binary64 :=
  ofDecimal false ⟨whole ++ fraction, -(fraction.length : Int)⟩

/-- The power of ten behind the digits of a numeral: none, or `e` with an integer. -/
def exponent? : List Char → Option Int
  | [] => some 0
  | mark :: rest =>
      let (negative, digits) := Numeral.splitSign rest
      if (mark == 'e' || mark == 'E') && !digits.isEmpty && digits.all isDigit then
        some (if negative then -(digitsValue digits : Int) else digitsValue digits)
      else none

/-- Digits with an optional point and an optional exponent; one digit at least stands before the
exponent. -/
def Decimal.ofCharacters? (text : List Char) : Option Decimal :=
  let (whole, afterWhole) := Numeral.spanDigits text
  let (fraction, afterFraction) := match afterWhole with
    | '.' :: rest => Numeral.spanDigits rest
    | rest => ([], rest)
  if whole.isEmpty && fraction.isEmpty then none
  else (exponent? afterFraction).map fun exponent =>
    ⟨whole ++ fraction, exponent - fraction.length⟩

/-- Reads a number: blanks around it, an optional sign, and a decimal numeral or a word for
infinity or the value that is not a number, in any letter case. -/
def ofText? (text : List Char) : Option Binary64 :=
  match Numeral.parts? text with
  | none => none
  | some (negative, unsigned) =>
      let word := String.ofList (unsigned.map Char.toLower)
      if word = "inf" || word = "infinity" then some (.infinite negative)
      else if word = "nan" then some .nan
      else (Decimal.ofCharacters? unsigned).map (ofDecimal negative)

end MediaSearch.Binary64

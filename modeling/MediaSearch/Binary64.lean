/-!
# Binary floating point numbers

Numbers with a significand below 2^53 and a power of two, infinities, and the value that is not
a number. Every finite number has an exact rational value, and each operation is the exact
operation on these values followed by rounding to the nearest number, a tie going to the even
significand.
-/

set_option autoImplicit false

namespace MediaSearch

/-- Each number has one significand and exponent: the significand uses all its 53 bits unless the
exponent is the least one. -/
def Binary64.IsCanonical (significand : Nat) (exponent : Int) : Prop :=
  significand < Nat.pow 2 53 ∧ -1074 ≤ exponent ∧ exponent ≤ 971 ∧
    (Nat.pow 2 52 ≤ significand ∨ exponent = -1074)

instance (significand : Nat) (exponent : Int) :
    Decidable (Binary64.IsCanonical significand exponent) :=
  inferInstanceAs (Decidable (_ ∧ _ ∧ _ ∧ (_ ∨ _)))

/-- A finite number: a sign, a significand and the power of two it counts. Zero has both signs. -/
structure Binary64.Finite where
  negative : Bool
  significand : Nat
  exponent : Int
  canonical : Binary64.IsCanonical significand exponent
  deriving DecidableEq

inductive Binary64 where
  | finite (number : Binary64.Finite)
  | infinite (negative : Bool)
  | nan
  deriving DecidableEq

namespace Binary64

def Finite.magnitude (number : Finite) : Rat :=
  mkRat (number.significand * Nat.pow 2 number.exponent.toNat : Nat)
    (Nat.pow 2 (-number.exponent).toNat)

def Finite.value (number : Finite) : Rat :=
  if number.negative then -number.magnitude else number.magnitude

/-- The zero of either sign. -/
def zero (negative : Bool) : Binary64 :=
  .finite ⟨negative, 0, -1074, by decide⟩

/-- The natural number nearest to a quotient; half way between two it is the even one. -/
def roundQuotient (numerator denominator : Nat) : Nat :=
  let quotient := numerator / denominator
  let remainder := numerator % denominator
  if 2 * remainder < denominator then quotient
  else if denominator < 2 * remainder then quotient + 1
  else quotient + quotient % 2

/-- The greatest power of two that does not exceed a positive quotient. -/
def binaryOrder (numerator denominator : Nat) : Int :=
  let estimate : Int := (numerator.log2 : Int) - denominator.log2
  if denominator * Nat.pow 2 estimate.toNat ≤ numerator * Nat.pow 2 (-estimate).toNat then estimate
  else estimate - 1

/-- The number nearest to a positive quotient, with the given sign. What lies beyond the greatest
finite number by half a unit or more is infinite. -/
def ofQuotient (negative : Bool) (numerator denominator : Nat) : Binary64 :=
  let exponent := max (binaryOrder numerator denominator - 52) (-1074)
  let rounded := roundQuotient (numerator * Nat.pow 2 (-exponent).toNat)
    (denominator * Nat.pow 2 exponent.toNat)
  let (significand, exponent) :=
    if rounded = Nat.pow 2 53 then (Nat.pow 2 52, exponent + 1) else (rounded, exponent)
  if canonical : IsCanonical significand exponent then
    .finite ⟨negative, significand, exponent, canonical⟩
  else .infinite negative

/-- The number nearest to a rational number; a zero takes the given sign. -/
def ofRat (zeroNegative : Bool) (value : Rat) : Binary64 :=
  if value.num = 0 then zero zeroNegative
  else ofQuotient (value.num < 0) value.num.natAbs value.den

def ofInt? (value : Int) : Option Binary64 :=
  match ofRat false value with
  | .infinite _ => none
  | number => some number

def ofInt (value : Int) : Binary64 :=
  ofRat false value

def isZero : Binary64 → Bool
  | .finite number => number.significand == 0
  | _ => false

def neg : Binary64 → Binary64
  | .finite number => .finite { number with negative := !number.negative }
  | .infinite negative => .infinite (!negative)
  | .nan => .nan

/-- Sum. A zero sum is negative only if both terms are. -/
def add : Binary64 → Binary64 → Binary64
  | .finite left, .finite right =>
      ofRat (left.negative && right.negative) (left.value + right.value)
  | .nan, _ => .nan
  | _, .nan => .nan
  | .infinite left, .infinite right => if left = right then .infinite left else .nan
  | .infinite left, .finite _ => .infinite left
  | .finite _, .infinite right => .infinite right

def sub (left right : Binary64) : Binary64 :=
  add left (neg right)

def mul : Binary64 → Binary64 → Binary64
  | .finite left, .finite right =>
      ofRat (left.negative != right.negative) (left.value * right.value)
  | .nan, _ => .nan
  | _, .nan => .nan
  | .infinite left, .infinite right => .infinite (left != right)
  | .infinite left, .finite right =>
      if right.significand = 0 then .nan else .infinite (left != right.negative)
  | .finite left, .infinite right =>
      if left.significand = 0 then .nan else .infinite (left.negative != right)

/-- Quotient by a finite number other than zero. -/
def divBy (dividend : Binary64) (divisor : Finite) : Binary64 :=
  match dividend with
  | .finite number =>
      ofRat (number.negative != divisor.negative) (number.value / divisor.value)
  | .infinite negative => .infinite (negative != divisor.negative)
  | .nan => .nan

/-- Whether the first number is less than the second. Nothing is less than, or more than, the value
that is not a number. -/
def lt : Binary64 → Binary64 → Bool
  | .finite left, .finite right => left.value < right.value
  | .infinite left, .finite _ => left
  | .finite _, .infinite right => !right
  | .infinite left, .infinite right => left && !right
  | _, _ => false

def isAtMostZero : Binary64 → Bool
  | .finite number => number.value ≤ 0
  | .infinite negative => negative
  | .nan => false

/-- The second number if it is less than the first, else the first. -/
def min (first second : Binary64) : Binary64 :=
  if lt second first then second else first

inductive IntegerError where
  | notANumber
  | infinite
  deriving DecidableEq, Repr

def IntegerError.message : IntegerError → String
  | .notANumber => "cannot convert float NaN to integer"
  | .infinite => "cannot convert float infinity to integer"

def truncateRat (value : Rat) : Int :=
  value.num.tdiv value.den

/-- The integer nearest to a rational number; half way between two it is the even one. -/
def roundRat (value : Rat) : Int :=
  let magnitude : Int := roundQuotient value.num.natAbs value.den
  if value.num < 0 then -magnitude else magnitude

def mapToInt (convert : Rat → Int) : Binary64 → Except IntegerError Int
  | .finite number => .ok (convert number.value)
  | .infinite _ => .error .infinite
  | .nan => .error .notANumber

def truncate (number : Binary64) : Except IntegerError Int :=
  mapToInt truncateRat number

/-- The nearest integer, a tie going to the even one. -/
def round (number : Binary64) : Except IntegerError Int :=
  mapToInt roundRat number

def floor : Binary64 → Binary64
  | .finite number => ofRat number.negative number.value.floor
  | other => other

/-- What is left of a finite number after taking the divisor off as often as it goes in whole, with
the sign of the number. -/
def remainderBy (number divisor : Finite) : Binary64 :=
  ofRat number.negative
    (number.value - divisor.value * (truncateRat (number.value / divisor.value) : Rat))

/-- Floor of a quotient by a positive finite number. The remainder is taken off before the division,
so the quotient is a whole number up to rounding, and it is corrected for negative remainders and
for roundings past a half. -/
def floorDivBy (dividend : Binary64) (divisor : Finite) : Binary64 :=
  match dividend with
  | .finite number =>
      let remainder := remainderBy number divisor
      let whole := divBy (sub dividend remainder) divisor
      let whole := if lt remainder (zero false) then sub whole (ofInt 1) else whole
      if isZero whole then
        zero (number.negative != divisor.negative)
      else
        let floored := floor whole
        if lt (ofRat false (1 / 2)) (sub whole floored) then add floored (ofInt 1) else floored
  | _ => .nan

end Binary64

end MediaSearch

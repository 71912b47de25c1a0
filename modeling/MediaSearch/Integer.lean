import MediaSearch.Numeral

/-!
# Integers as text

Writing integers in decimal digits and reading them back. More than `maxDigits` digits are refused
in both directions, so that no text can demand unbounded work.
-/

set_option autoImplicit false

namespace MediaSearch.Integer

open MediaSearch.Text

/-- The most digits that an integer may have when it is read or put into a document. -/
def maxDigits : Nat := 4300

/-- Decimal digits of a natural number, most significant first and without leading zeros. -/
def digits (value : Nat) : List Char :=
  Nat.toDigits 10 value

def characters : Int → List Char
  | .ofNat value => digits value
  | .negSucc value => '-' :: digits (value + 1)

def text (value : Int) : String :=
  String.ofList (characters value)

def paddedDigits (width value : Nat) : List Char :=
  List.replicate (width - (digits value).length) '0' ++ digits value

/-- Whether an integer has few enough digits to be put into a document. -/
def fits (value : Int) : Bool :=
  (digits value.natAbs).length ≤ maxDigits

/-- Why an integer cannot be written. -/
inductive WriteError where
  | tooManyDigits
  deriving DecidableEq, Repr

def WriteError.message : WriteError → String
  | .tooManyDigits =>
      "Exceeds the limit (4300 digits) for integer string conversion; " ++
        "use sys.set_int_max_str_digits() to increase the limit"

/-- The text of an integer that has few enough digits. -/
def write (value : Int) : Except WriteError String :=
  if fits value then .ok (text value) else .error .tooManyDigits

structure TooManyDigits where
  digits : Nat
  deriving DecidableEq, Repr

def TooManyDigits.message (error : TooManyDigits) : String :=
  "Exceeds the limit (4300 digits) for integer string conversion: value has " ++
    String.ofList (characters error.digits) ++
    " digits; use sys.set_int_max_str_digits() to increase the limit"

def ofDigits (digits : List Char) : Except TooManyDigits Nat :=
  if maxDigits < digits.length then .error ⟨digits.length⟩ else .ok (digitsValue digits)

theorem ofDigits_eq_ok_iff {digits : List Char} {value : Nat} :
    ofDigits digits = .ok value ↔ digits.length ≤ maxDigits ∧ digitsValue digits = value := by
  unfold ofDigits
  split <;> simp <;> omega

/-- Reads an integer: blanks around it, an optional sign, and digits with single underscores
between them, but not too many. -/
def ofText? (text : List Char) : Option Int :=
  match Numeral.parts? text with
  | none => none
  | some (negative, unsigned) =>
      if unsigned.isEmpty || !unsigned.all isDigit then none
      else
        (ofDigits unsigned).toOption.map fun value => if negative then -(value : Int) else value

end MediaSearch.Integer

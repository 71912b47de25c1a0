import MediaSearch.Value
import Mathlib.Algebra.Order.Field.Rat

/-!
# Grammar of JSON

The grammar of JSON with the value that each text denotes. Every relation takes something off the
front of a text and leaves the rest. Numbers without a fraction and without an exponent denote
integers, all others the nearest floating point number. The names in an object are distinct, and
escapes name whole characters, so that every text that is derived can be held as a value.
-/

set_option autoImplicit false

namespace MediaSearch.Json

/-- What a relation takes off the front of a text, and the rest. -/
abbrev Reading (α : Type) := List Char → α → List Char → Prop

/-!
## Gaps
-/

def isGap (character : Char) : Bool :=
  character == ' ' || character == '\t' || character == '\n' || character == '\r'

def Gap (text rest : List Char) : Prop :=
  ∃ gap, (∀ character ∈ gap, isGap character = true) ∧ text = gap ++ rest

/-!
## Texts
-/

/-- Characters with an escape of their own. -/
def escapes : List (Char × Char) :=
  [('"', '"'), ('\\', '\\'), ('/', '/'), ('b', Char.ofNat 8), ('f', Char.ofNat 12), ('n', '\n'),
    ('r', '\r'), ('t', '\t')]

def hexDigitValue? (character : Char) : Option Nat :=
  if character.isDigit then some (character.toNat - '0'.toNat)
  else if 'a' ≤ character && character ≤ 'f' then some (character.toNat - 'a'.toNat + 10)
  else if 'A' ≤ character && character ≤ 'F' then some (character.toNat - 'A'.toNat + 10)
  else none

def hexValue? (digits : List Char) : Option Nat :=
  digits.foldlM (fun value digit => (hexDigitValue? digit).map (16 * value + ·)) 0

/-- Four hexadecimal digits with their value. -/
def CodeUnit : Reading Nat :=
  fun text value rest => ∃ digits, digits.length = 4 ∧ hexValue? digits = some value ∧
    text = digits ++ rest

/-- A character of a text as it is or as an escape. A character that one code unit does not hold is
escaped as a pair of them. -/
inductive Letter : Reading Char where
  | plain {character : Char} {rest : List Char} :
      32 ≤ character.toNat → character ≠ '"' → character ≠ '\\' →
      Letter (character :: rest) character rest
  | escape {mark character : Char} {rest : List Char} :
      (mark, character) ∈ escapes → Letter ('\\' :: mark :: rest) character rest
  | code {character : Char} {text rest : List Char} :
      CodeUnit text character.toNat rest → Letter ('\\' :: 'u' :: text) character rest
  | pair {character : Char} {text middle rest : List Char} {high low : Nat} :
      CodeUnit text (0xD800 + high) ('\\' :: 'u' :: middle) → CodeUnit middle (0xDC00 + low) rest →
      high < 0x400 → low < 0x400 → character.toNat = 0x10000 + high * 0x400 + low →
      Letter ('\\' :: 'u' :: text) character rest

/-- Characters up to the quotation mark that ends a text. -/
inductive Letters : Reading (List Char) where
  | done {rest : List Char} : Letters ('"' :: rest) [] rest
  | letter {character : Char} {characters text middle rest : List Char} :
      Letter text character middle → Letters middle characters rest →
      Letters text (character :: characters) rest

/-!
## Numbers
-/

def IsDigits (text : List Char) : Prop :=
  text ≠ [] ∧ ∀ character ∈ text, character.isDigit = true

def digitsValue (digits : List Char) : Nat :=
  Nat.ofDigitChars 10 digits 0

/-- Digits without a superfluous zero in front. -/
def IsWhole (text : List Char) : Prop :=
  IsDigits text ∧ (text.head? = some '0' → text = ['0'])

/-- No fraction, or a point with digits. -/
inductive Fraction : List Char → List Char → Prop where
  | none : Fraction [] []
  | point {digits : List Char} : IsDigits digits → Fraction ('.' :: digits) digits

/-- No exponent, or one with or without a sign. -/
inductive Power : List Char → Int → Prop where
  | none : Power [] 0
  | unsigned {mark : Char} {digits : List Char} :
      mark = 'e' ∨ mark = 'E' → IsDigits digits → Power (mark :: digits) (digitsValue digits)
  | plus {mark : Char} {digits : List Char} :
      mark = 'e' ∨ mark = 'E' → IsDigits digits → Power (mark :: '+' :: digits) (digitsValue digits)
  | minus {mark : Char} {digits : List Char} :
      mark = 'e' ∨ mark = 'E' → IsDigits digits →
      Power (mark :: '-' :: digits) (-(digitsValue digits : Int))

def signText (negative : Bool) : List Char :=
  if negative then ['-'] else []

def signed (negative : Bool) (magnitude : Rat) : Rat :=
  if negative then -magnitude else magnitude

/-- A whole number token and the value that it denotes. -/
inductive Numeral : List Char → Value → Prop where
  | integer (negative : Bool) {whole : List Char} : IsWhole whole →
      Numeral (signText negative ++ whole)
        (.int (if negative then -(digitsValue whole : Int) else digitsValue whole))
  | real (negative : Bool) {whole fraction digits power : List Char} {exponent : Int} :
      IsWhole whole → Fraction fraction digits → Power power exponent →
      fraction ++ power ≠ [] →
      Numeral (signText negative ++ whole ++ fraction ++ power)
        (.real (Binary64.ofRat negative (signed negative
          ((digitsValue (whole ++ digits) : Rat) * (10 : Rat) ^ (exponent - digits.length)))))

/-!
## Values
-/

/-- Something with gaps around it. -/
def Padded {α : Type} (inner : Reading α) : Reading α :=
  fun text value rest => ∃ start stop, Gap text start ∧ inner start value stop ∧ Gap stop rest

/-- A name and a value, with a colon and gaps. -/
def Member (inner : Reading Value) : Reading (String × Value) :=
  fun text entry rest => ∃ start stop value, Gap text ('"' :: start) ∧
    Letters start entry.1.toList stop ∧ Gap stop (':' :: value) ∧ Padded inner value entry.2 rest

/-- Elements with commas between them, up to a closing bracket. -/
inductive Series {α : Type} (element : Reading α) (closing : Char) : Reading (List α) where
  | last {text rest : List Char} {value : α} :
      element text value (closing :: rest) → Series element closing text [value] rest
  | more {text middle rest : List Char} {value : α} {values : List α} :
      element text value (',' :: middle) → Series element closing middle values rest →
      Series element closing text (value :: values) rest

/-- Elements between brackets, of which the opening one is taken off already. -/
inductive Body {α : Type} (element : Reading α) (closing : Char) : Reading (List α) where
  | empty {text rest : List Char} :
      Gap text (closing :: rest) → Body element closing text [] rest
  | series {text rest : List Char} {values : List α} :
      Series element closing text values rest → Body element closing text values rest

def words : List (String × Value) :=
  [("null", .null), ("true", .bool true), ("false", .bool false)]

/-- A value, given what the values inside of it are. -/
inductive Sentence (inner : Reading Value) : Reading Value where
  | word {word : String} {value : Value} {rest : List Char} :
      (word, value) ∈ words → Sentence inner (word.toList ++ rest) value rest
  | number {token rest : List Char} {value : Value} :
      Numeral token value → Sentence inner (token ++ rest) value rest
  | text {text rest characters : List Char} :
      Letters text characters rest →
      Sentence inner ('"' :: text) (.text (String.ofList characters)) rest
  | list {text rest : List Char} {items : List Value} :
      Body (Padded inner) ']' text items rest → Sentence inner ('[' :: text) (.list items) rest
  | object {text rest : List Char} {entries : Entries} :
      Body (Member inner) '\x7d' text entries rest → (entries.map (·.1)).Nodup →
      Sentence inner ('\x7b' :: text) (.object entries) rest

/-- A value with at most so many levels of lists and objects, itself counted. -/
def Denotes : Nat → Reading Value
  | 0 => fun _ _ _ => False
  | depth + 1 => Sentence (Denotes depth)

/-- A value of any depth. -/
def Reads (text : List Char) (value : Value) (rest : List Char) : Prop :=
  ∃ depth, Denotes depth text value rest

/-- A whole text is JSON and denotes a value. -/
def IsText (text : List Char) (value : Value) : Prop :=
  Padded Reads text value []

end MediaSearch.Json

import MediaSearch.Value

/-!
# JSON documents

Dynamic values as indented JSON. Entries keep their order, every nested line is two blanks deeper
than the one around it, and only quotation marks, backslashes and controls are escaped.
-/

set_option autoImplicit false

namespace MediaSearch.Json

open MediaSearch.Text

/-- Numbers in documents look as in messages; the values without digits have names of their own. -/
def numberLayout : Binary64.Layout := ⟨-4, 16, "Infinity", "NaN"⟩

def escaped (character : Char) : List Char :=
  if character = '"' || character = '\\' then ['\\', character]
  else if character = '\n' then ['\\', 'n']
  else if character = '\r' then ['\\', 'r']
  else if character = '\t' then ['\\', 't']
  else if character.toNat = 8 then ['\\', 'b']
  else if character.toNat = 12 then ['\\', 'f']
  else if character.toNat < 32 then '\\' :: 'u' :: hexDigits 4 character.toNat
  else [character]

def string (text : String) : List Char :=
  '"' :: text.toList.flatMap escaped ++ ['"']

def newLine (depth : Nat) : List Char :=
  '\n' :: List.replicate (2 * depth) ' '

/-- Puts members on lines of their own between brackets; without members the brackets touch. -/
def block (opening closing : Char) (depth : Nat) : List (List Char) → List Char
  | [] => [opening, closing]
  | first :: rest =>
      opening :: newLine (depth + 1) ++ first ++
        rest.flatMap (fun member => ',' :: newLine (depth + 1) ++ member) ++
        newLine depth ++ [closing]

mutual

def document (depth : Nat) : Value → List Char
  | .null => "null".toList
  | .bool true => "true".toList
  | .bool false => "false".toList
  | .int value => Integer.characters value
  | .real value => (value.textAs numberLayout).toList
  | .text value => string value
  | .timestamp written => string written
  | .list items => block '[' ']' depth (members depth items)
  | .object entries => block '\x7b' '\x7d' depth (fields depth entries)
termination_by structural value => value

def members (depth : Nat) : List Value → List (List Char)
  | [] => []
  | item :: rest => document (depth + 1) item :: members depth rest
termination_by structural items => items

/-- The entries of an object as documents one level deeper, each behind its key. -/
def fields (depth : Nat) : List (String × Value) → List (List Char)
  | [] => []
  | (key, value) :: rest =>
      (string key ++ ':' :: ' ' :: document (depth + 1) value) :: fields depth rest
termination_by structural entries => entries

end

mutual

def fits : Value → Bool
  | .int value => Integer.fits value
  | .list items => itemsFit items
  | .object entries => entriesFit entries
  | _ => true
termination_by structural value => value

def itemsFit : List Value → Bool
  | [] => true
  | item :: rest => fits item && itemsFit rest
termination_by structural items => items

def entriesFit : List (String × Value) → Bool
  | [] => true
  | (_, value) :: rest => fits value && entriesFit rest
termination_by structural entries => entries

end

def write? (value : Value) : Option String :=
  if fits value then some (String.ofList (document 0 value)) else none

end MediaSearch.Json

import MediaSearch.Keyed
import MediaSearch.Number
import MediaSearch.Text.Quoted

/-!
# Dynamic values

The values that servers send and configurations hold: nothing, truth values, numbers, texts, time
stamps, lists, and objects whose entries keep their order.
-/

set_option autoImplicit false

namespace MediaSearch

/-- A dynamic value. A time stamp is kept as it was written, since nothing reads it. -/
inductive Value where
  | null
  | bool (value : Bool)
  | int (value : Int)
  | real (value : Binary64)
  | text (value : String)
  | timestamp (written : String)
  | list (items : List Value)
  | object (entries : List (String × Value))

instance : Inhabited Value := ⟨.null⟩

abbrev Entries := List (String × Value)

namespace Entries

def get (entries : Entries) (key : String) : Value :=
  (entries.lookup key).getD .null

end Entries

namespace Value

def ofNumber : Number → Value
  | .int value => .int value
  | .real value => .real value

/-- Whether the value counts as absent: nothing, false, zero, or empty. -/
def isFalsy : Value → Bool
  | .null => true
  | .bool value => !value
  | .int value => value == 0
  | .real value => value.isZero
  | .text value => value.isEmpty
  | .timestamp _ => false
  | .list items => items.isEmpty
  | .object entries => entries.isEmpty

mutual

def quoted : Value → String
  | .null => "None"
  | .bool true => "True"
  | .bool false => "False"
  | .int value => Integer.text value
  | .real value => value.text
  | .text value => Text.quoted value
  | .timestamp written => written
  | .list items => "[" ++ ", ".intercalate (quotedItems items) ++ "]"
  | .object entries => "\x7b" ++ ", ".intercalate (quotedEntries entries) ++ "\x7d"
termination_by structural value => value

def quotedItems : List Value → List String
  | [] => []
  | item :: rest => quoted item :: quotedItems rest
termination_by structural items => items

def quotedEntries : List (String × Value) → List String
  | [] => []
  | (key, value) :: rest => (Text.quoted key ++ ": " ++ quoted value) :: quotedEntries rest
termination_by structural entries => entries

end

/-- The value as text: a text stands for itself, everything else as in messages. -/
def display : Value → String
  | .text value => value
  | value => quoted value

/-- The text of a value without outer blanks; nothing has the empty text. -/
def trimmedText : Value → String
  | .null => ""
  | value => Text.trim (display value)

end Value

end MediaSearch

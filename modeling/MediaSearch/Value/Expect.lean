import MediaSearch.Value

/-!
# Expected types of values

Values that come from outside are taken as what is expected of them or refused. The error names
the place of the value.
-/

set_option autoImplicit false

namespace MediaSearch

inductive ValueKind where
  | text | truthValue | integer | number | list | object
  deriving DecidableEq, Repr

def ValueKind.description : ValueKind → String
  | .text => "a string"
  | .truthValue => "a boolean"
  | .integer => "an integer"
  | .number => "a number"
  | .list => "a list"
  | .object => "an object"

/-- Why a value is refused. The key says where it stands. -/
inductive ValueError where
  | wrongKind (key : String) (expected : ValueKind)
  | notAllowed (key : String) (choices : List String)
  | tooLarge
  deriving DecidableEq, Repr

def ValueError.message : ValueError → String
  | .wrongKind key expected => key ++ " must be " ++ expected.description
  | .notAllowed key choices => key ++ " must be one of " ++ Text.quotedList choices
  | .tooLarge => "int too large to convert to float"

namespace Value

def expectText (key : String) : Value → Except ValueError String
  | .text value => .ok value
  | _ => .error (.wrongKind key .text)

def expectBool (key : String) : Value → Except ValueError Bool
  | .bool value => .ok value
  | _ => .error (.wrongKind key .truthValue)

/-- The integer that the value is. A truth value is none. -/
def expectInt (key : String) : Value → Except ValueError Int
  | .int value => .ok value
  | _ => .error (.wrongKind key .integer)

def expectNumber (key : String) : Value → Except ValueError Number
  | .int value => .ok (.int value)
  | .real value => .ok (.real value)
  | _ => .error (.wrongKind key .number)

def expectReal (key : String) (value : Value) : Except ValueError Binary64 :=
  (value.expectNumber key).bind fun number =>
    match number.toBinary64? with
    | some nearest => .ok nearest
    | none => .error .tooLarge

def expectChoice (key : String) (choices : List String) (value : Value) :
    Except ValueError String :=
  (value.expectText key).bind fun text =>
    if text ∈ choices then .ok text else .error (.notAllowed key choices)

def expectTextsFrom (key : String) : (place : Nat) → List Value → Except ValueError (List String)
  | _, [] => .ok []
  | place, item :: rest =>
      (item.expectText (key ++ "[" ++ Integer.text place ++ "]")).bind fun text =>
        (expectTextsFrom key (place + 1) rest).map (text :: ·)

/-- The list of texts that the value is. -/
def expectTexts (key : String) : Value → Except ValueError (List String)
  | .list items => expectTextsFrom key 0 items
  | _ => .error (.wrongKind key .list)

def expectObject (key : String) : Value → Except ValueError Entries
  | .object entries => .ok entries
  | _ => .error (.wrongKind key .object)

end Value

end MediaSearch

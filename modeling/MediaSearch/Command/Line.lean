import MediaSearch.Binary64.Text
import MediaSearch.Scalar

/-!
# Command lines

What a reader of command lines makes of words: values of options, and other words. In the reader
that is given here an option is spelt out in full behind two dashes; its value is the next word,
whatever that looks like, or stands behind an equals sign. Two dashes alone end the options.
-/

set_option autoImplicit false

namespace MediaSearch.Command

/-- What the value of an option is. A flag has none. -/
inductive OptionKind where
  | flag
  | text
  | integer
  | real
  | choice (allowed : List String)
  deriving DecidableEq, Repr

/-- An option: its name, with underscores between its parts, and what its value is. -/
structure OptionSpec where
  name : String
  kind : OptionKind
  required : Bool := false
  deriving DecidableEq, Repr

inductive UsageError where
  | unknownOption (word : String)
  | missingValue (name : String)
  | uselessValue (name : String)
  | badValue (name value : String)
  | missingOption (name : String)
  | missingWord
  | extraWords (words : List String)
  | unknownCommand (name : String)
  | missingCommand
  | folderAsFile (path : String)
  deriving DecidableEq, Repr

def UsageError.message : UsageError → String
  | .unknownOption word => "No such option: " ++ word
  | .missingValue name => "Option " ++ name ++ " requires a value."
  | .uselessValue name => "Option " ++ name ++ " does not take a value."
  | .badValue name value => "Invalid value for " ++ name ++ ": " ++ value
  | .missingOption name => "Missing option " ++ name ++ "."
  | .missingWord => "Missing argument."
  | .extraWords words => "Unexpected arguments: " ++ " ".intercalate words
  | .unknownCommand name => "No such command: " ++ name
  | .missingCommand => "Missing command."
  | .folderAsFile path => "Not a file: " ++ path

def OptionSpec.word (spec : OptionSpec) : String :=
  "--" ++ String.ofList (spec.name.toList.map fun character =>
    if character = '_' then '-' else character)

/-- Words as they were taken: options with their values in order, and the other words. -/
structure Written where
  options : List (String × String) := []
  words : List String := []
  deriving DecidableEq, Repr

def Written.withOption (written : Written) (name value : String) : Written :=
  { written with options := (name, value) :: written.options }

def Written.withWord (written : Written) (word : String) : Written :=
  { written with words := word :: written.words }

def looksLikeOption (word : String) : Bool :=
  match word.toList with
  | '-' :: _ :: _ => true
  | _ => false

def splitValue (word : String) : String × Option String :=
  let characters := word.toList
  (String.ofList (characters.takeWhile (· != '=')),
    match characters.dropWhile (· != '=') with
    | [] => none
    | _ :: value => some (String.ofList value))

/-- Takes words apart. With `mixed` options may follow other words; else the first other word ends
them. Told the option that waits for its value, if there is one. -/
def takeApart (specs : List OptionSpec) (mixed : Bool) (waiting : Option OptionSpec) :
    List String → Except UsageError Written
  | [] =>
      match waiting with
      | some spec => .error (.missingValue spec.name)
      | none => .ok {}
  | word :: rest =>
      match waiting with
      | some spec => (takeApart specs mixed none rest).map (·.withOption spec.name word)
      | none =>
          if word = "--" then .ok { words := rest }
          else if looksLikeOption word then
            let (name, value) := splitValue word
            match specs.find? (·.word = name), value with
            | none, _ => .error (.unknownOption word)
            | some spec, some value =>
                if spec.kind = .flag then .error (.uselessValue spec.name)
                else (takeApart specs mixed none rest).map (·.withOption spec.name value)
            | some spec, none =>
                if spec.kind = .flag then
                  (takeApart specs mixed none rest).map (·.withOption spec.name "")
                else takeApart specs mixed (some spec) rest
          else if mixed then (takeApart specs mixed none rest).map (·.withWord word)
          else .ok { words := word :: rest }

def valueOf? (kind : OptionKind) (word : String) : Option Scalar :=
  match kind with
  | .flag => some (.bool true)
  | .text => some (.text word)
  | .integer => (Integer.ofText? word.toList).map .int
  | .real => (Binary64.ofText? word.toList).map fun number => .number (.real number)
  | .choice allowed => if word ∈ allowed then some (.text word) else none

/-- The value of an option, which is null if the option is left out. Of several the last counts, and
only that is looked at. -/
def optionValue (written : Written) (spec : OptionSpec) : Except UsageError Scalar :=
  match written.options.reverse.lookup spec.name with
  | none => if spec.required then .error (.missingOption spec.name) else .ok .null
  | some word =>
      match valueOf? spec.kind word with
      | some value => .ok value
      | none => .error (.badValue spec.name word)

/-- The values of all options, by name and in the order of the options. -/
def optionValues (written : Written) : List OptionSpec → Except UsageError (List NamedScalar)
  | [] => .ok []
  | spec :: rest => do
      let value ← optionValue written spec
      let values ← optionValues written rest
      return (spec.name, value) :: values

/-- The values of options by name, which are null for those that are left out, and the other words.
-/
structure Arguments where
  values : List NamedScalar
  words : List String
  deriving DecidableEq

/-- A reader of command lines, told the options that there are and whether they may follow other
words. -/
abbrev Reader := List OptionSpec → (mixed : Bool) → List String → Except UsageError Arguments

def readWords : Reader := fun specs mixed words => do
  let written ← takeApart specs mixed none words
  let values ← optionValues written specs
  return ⟨values, written.words⟩

end MediaSearch.Command

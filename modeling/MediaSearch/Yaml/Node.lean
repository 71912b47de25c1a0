import MediaSearch.Yaml.Word

/-!
# Nodes

Trees of scalars, sequences and mappings, and the values that they stand for. A merge key brings the
entries of other mappings in below the mapping's own.
-/

set_option autoImplicit false

namespace MediaSearch.Yaml

/-- A node. A scalar that is not quoted stands for what its word denotes. -/
inductive Node where
  | scalar (isPlain : Bool) (text : List Char)
  | sequence (items : List Node)
  | mapping (entries : List (Node × Node))

instance : Inhabited Node := ⟨.sequence []⟩

inductive Error where
  | unexpected (line column : Nat)
  | unknownName (name : String)
  | badWord (word : String)
  | badKey
  | badMerge
  deriving DecidableEq, Repr

def Error.message : Error → String
  | .unexpected line column =>
      "unexpected text in line " ++ Integer.text (line + 1) ++ ", column " ++
        Integer.text (column + 1)
  | .unknownName name => "found undefined alias " ++ Text.quoted name
  | .badWord word => "invalid value: " ++ Text.quoted word
  | .badKey => "found unhashable key"
  | .badMerge => "expected a mapping or list of mappings for merging"

namespace Node

def isMergeKey : Node → Bool
  | .scalar true ['<', '<'] => true
  | _ => false

/-- The node for nothing. -/
def empty : Node := .scalar true []

def scalarValue (isPlain : Bool) (text : List Char) : Except Error Value :=
  if isPlain then
    match ofPlain? text with
    | some value => .ok value
    | none => .error (.badWord (String.ofList text))
  else .ok (.text (String.ofList text))

/-- The key that a node is. Keys that are no texts become what they look like in messages. -/
def key : Node → Except Error String
  | .scalar isPlain text => (scalarValue isPlain text).map Value.display
  | _ => .error .badKey

def entriesOfAll : List Value → Except Error Entries
  | [] => .ok []
  | .object entries :: rest => (entriesOfAll rest).map (· ++ entries)
  | _ => .error .badMerge

/-- The entries that a value brings in under a merge key. Of several mappings the first wins, so it
comes last. -/
def mergedEntries : Value → Except Error Entries
  | .object entries => .ok entries
  | .list items => entriesOfAll items
  | _ => .error .badMerge

mutual

def toValue : Node → Except Error Value
  | .scalar isPlain text => scalarValue isPlain text
  | .sequence items => (valuesOf items).map .list
  | .mapping entries => do
      let (merged, own) ← entriesOf entries
      return .object (Keyed.ofList (merged ++ own))
termination_by structural node => node

def valuesOf : List Node → Except Error (List Value)
  | [] => .ok []
  | item :: rest => do
      let value ← toValue item
      return value :: (← valuesOf rest)
termination_by structural nodes => nodes

/-- The entries of a mapping: those that merge keys bring in, and its own. -/
def entriesOf : List (Node × Node) → Except Error (Entries × Entries)
  | [] => .ok ([], [])
  | (key, node) :: rest => do
      let value ← toValue node
      if key.isMergeKey then
        let brought ← mergedEntries value
        let (merged, own) ← entriesOf rest
        return (brought ++ merged, own)
      else
        let name ← key.key
        let (merged, own) ← entriesOf rest
        return (merged, (name, value) :: own)
termination_by structural entries => entries

end

end Node

end MediaSearch.Yaml

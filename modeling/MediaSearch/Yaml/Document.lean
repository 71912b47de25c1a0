import MediaSearch.Yaml.Block
import MediaSearch.Yaml.Node

/-!
# Documents

Reading a text as a node. Outside of brackets the columns say what belongs together: what belongs
to an entry stands further to the right, only the dashes of a list may stand below their key. A
node may be given a name and be used again by it.
-/

set_option autoImplicit false

namespace MediaSearch.Yaml

/-- A place in a text, counted from zero, and the nodes that have names so far. -/
structure Place where
  rest : List Char
  line : Nat := 0
  column : Nat := 0
  names : List (String × Node) := []

abbrev Reading := StateT Place (Except Error)

namespace Reading

def stepOver (place : Place) (character : Char) : Place :=
  if isLineEnd character then { place with line := place.line + 1, column := 0 }
  else { place with column := place.column + 1 }

def goTo (rest : List Char) : Reading Unit :=
  modify fun place =>
    let passed := place.rest.take (place.rest.length - rest.length)
    { passed.foldl stepOver place with rest }

def skip (count : Nat) : Reading Unit := do
  goTo ((← get).rest.drop count)

def ahead : Reading (List Char) := do
  return (← get).rest

def column : Reading Nat := do
  return (← get).column

def line : Reading Nat := do
  return (← get).line

def refuse {α : Type} : Reading α := do
  let place ← get
  throw (.unexpected place.line place.column)

def taken {α : Type} : Option (α × List Char) → Reading α
  | some (found, rest) => do
      goTo rest
      return found
  | none => refuse

def behindSpace (inComment : Bool) : List Char → List Char
  | [] => []
  | character :: rest =>
      if isLineEnd character then behindSpace false rest
      else if inComment then behindSpace true rest
      else if character = ' ' then behindSpace false rest
      else if character = '#' then behindSpace true rest
      else character :: rest

def skipSpace : Reading Unit := do
  goTo (behindSpace false (← ahead))

def atEnd : Reading Bool := do
  let place ← get
  return place.rest.isEmpty || place.column == 0 && startsWithMark place.rest

/-- Whether a dash ahead starts an item of a list. -/
def startsItem : List Char → Bool
  | '-' :: rest => whiteFollows rest
  | _ => false

def isNameCharacter (character : Char) : Bool :=
  character.isAlphanum || character == '-' || character == '_'

/-- The name ahead, behind its sign. -/
def nameAhead : Reading String := do
  skip 1
  let text ← ahead
  let name := text.takeWhile isNameCharacter
  if name.isEmpty then refuse
  skip name.length
  return String.ofList name

def giveName (name : Option String) (node : Node) : Reading Node := do
  if let some name := name then
    modify fun place => { place with names := (name, node) :: place.names }
  return node

def named (name : String) : Reading Node := do
  match (← get).names.lookup name with
  | some node => return node
  | none => throw (.unknownName name)

/-- Whether a colon on a line separates a key that was just read from its value. -/
def separatorOn (keyLine : Nat) : Reading Bool := do
  if (← line) ≠ keyLine then return false
  match (← ahead).dropWhile (· == ' ') with
  | ':' :: rest => return whiteFollows rest
  | _ => return false

mutual

/-- A node that does not hang on columns: a name, a quoted or plain scalar, or a collection in
brackets. The least column is that of further lines of a plain scalar. -/
def inline (inBrackets : Bool) (least : Nat) : (fuel : Nat) → Reading Node
  | 0 => refuse
  | fuel + 1 => do
      match ← ahead with
      | '&' :: _ =>
          let name ← nameAhead
          skipSpace
          match ← ahead with
          | ',' :: _ | ']' :: _ | '\x7d' :: _ => giveName name .empty
          | _ => giveName name (← inline inBrackets least fuel)
      | '*' :: _ => named (← nameAhead)
      | '[' :: _ =>
          skip 1
          return .sequence (← bracketItems fuel)
      | '\x7b' :: _ =>
          skip 1
          return .mapping (← bracketEntries fuel)
      | '\'' :: rest => return .scalar false (← taken (singleQuoted? .none rest))
      | '"' :: rest => return .scalar false (← taken (doubleQuoted? .none 0 0 rest))
      | text =>
          if startsPlain inBrackets text then
            return .scalar true (← taken (some (plain inBrackets least text)))
          else refuse
termination_by structural fuel => fuel

def bracketValue : (fuel : Nat) → Reading Node
  | 0 => refuse
  | fuel + 1 => do
      skipSpace
      match ← ahead with
      | ':' :: _ =>
          skip 1
          skipSpace
          match ← ahead with
          | ',' :: _ | ']' :: _ | '\x7d' :: _ => return .empty
          | _ => inline true 0 fuel
      | _ => return .empty
termination_by structural fuel => fuel

/-- The items of a sequence in brackets up to the closing one. An item may be a single entry. -/
def bracketItems : (fuel : Nat) → Reading (List Node)
  | 0 => refuse
  | fuel + 1 => do
      skipSpace
      match ← ahead with
      | ']' :: _ =>
          skip 1
          return []
      | _ =>
          let first ← inline true 0 fuel
          skipSpace
          let item ← match ← ahead with
            | ':' :: _ => do pure (Node.mapping [(first, ← bracketValue fuel)])
            | _ => pure first
          skipSpace
          match ← ahead with
          | ',' :: _ =>
              skip 1
              return item :: (← bracketItems fuel)
          | ']' :: _ =>
              skip 1
              return [item]
          | _ => refuse
termination_by structural fuel => fuel

def bracketEntries : (fuel : Nat) → Reading (List (Node × Node))
  | 0 => refuse
  | fuel + 1 => do
      skipSpace
      match ← ahead with
      | '\x7d' :: _ =>
          skip 1
          return []
      | text =>
          let key ← match text with
            | ':' :: _ => pure Node.empty
            | _ => inline true 0 fuel
          let value ← bracketValue fuel
          skipSpace
          match ← ahead with
          | ',' :: _ =>
              skip 1
              return (key, value) :: (← bracketEntries fuel)
          | '\x7d' :: _ =>
              skip 1
              return [(key, value)]
          | _ => refuse
termination_by structural fuel => fuel

end

mutual

/-- A node whose parts hang on columns, none of them left of the least column. Only the dashes of a
list may stand one column further to the left, if that is said. Without a part there is nothing. -/
def block (least : Nat) (dashesBelow : Bool) : (fuel : Nat) → Reading Node
  | 0 => refuse
  | fuel + 1 => do
      skipSpace
      let text ← ahead
      let start ← column
      let startLine ← line
      let belongs := least ≤ start || dashesBelow && start + 1 == least && startsItem text
      if (← atEnd) || !belongs then return .empty
      if startsItem text then return .sequence (← items start fuel)
      match text with
      | '|' :: rest => return .scalar false (← taken (blockScalar? false least rest))
      | '>' :: rest => return .scalar false (← taken (blockScalar? true least rest))
      | '&' :: _ =>
          let name ← nameAhead
          skipSpace
          if (← line) = startLine then
            match ← ahead with
            | '|' :: _ | '>' :: _ => giveName name (← block least dashesBelow fuel)
            | _ =>
                let node ← giveName name (← inline false least fuel)
                finish start startLine node fuel
          else giveName name (← block least dashesBelow fuel)
      | _ => finish start startLine (← inline false least fuel) fuel
termination_by structural fuel => fuel

/-- A node that was read in a column, or the mapping whose first key it is. -/
def finish (start keyLine : Nat) (node : Node) : (fuel : Nat) → Reading Node
  | 0 => refuse
  | fuel + 1 => do
      if ← separatorOn keyLine then return .mapping (← entries start node fuel)
      else return node
termination_by structural fuel => fuel

def entries (start : Nat) (key : Node) : (fuel : Nat) → Reading (List (Node × Node))
  | 0 => refuse
  | fuel + 1 => do
      skipSpace
      skip 1
      let value ← block (start + 1) true fuel
      skipSpace
      if (← atEnd) || (← column) ≠ start || startsItem (← ahead) then return [(key, value)]
      let keyLine ← line
      let next ← inline false (start + 1) fuel
      if ← separatorOn keyLine then return (key, value) :: (← entries start next fuel)
      else refuse
termination_by structural fuel => fuel

def items (start : Nat) : (fuel : Nat) → Reading (List Node)
  | 0 => refuse
  | fuel + 1 => do
      skip 1
      let item ← block (start + 1) false fuel
      skipSpace
      if (← atEnd) || (← column) ≠ start || !startsItem (← ahead) then return [item]
      return item :: (← items start fuel)
termination_by structural fuel => fuel

end

def byteOrderMark : Char := '\ufeff'

def skipHead : (fuel : Nat) → Reading Unit
  | 0 => pure ()
  | fuel + 1 => do
      skipSpace
      match ← ahead with
      | '%' :: rest =>
          goTo (rest.dropWhile (!isLineEnd ·))
          skipHead fuel
      | '-' :: '-' :: '-' :: rest => if whiteFollows rest then skip 3
      | _ => pure ()

def document (fuel : Nat) : Reading Node := do
  skipHead fuel
  let node ← block 0 false fuel
  skipSpace
  match ← ahead with
  | [] => return node
  | '.' :: '.' :: '.' :: _ => return node
  | _ => refuse

end Reading

/-- The node that a text is. Every step of reading passes a character or goes one level down of at
most three. -/
def Node.ofText (text : String) : Except Error Node :=
  let characters := unifyLineEnds text.toList
  let characters := if characters.head? = some Reading.byteOrderMark then characters.drop 1
    else characters
  ((Reading.document (4 * characters.length + 8)).run { rest := characters }).map (·.1)

def read (text : String) : Except Error Value :=
  (Node.ofText text).bind Node.toValue

end MediaSearch.Yaml

import MediaSearch.Yaml.Gap

/-!
# Block scalars

Scalars that are written as indented lines below their sign. A literal scalar keeps its lines; a
folded one joins those that are not indented further. What is at the end is cut off, left as one
line end, or kept.
-/

set_option autoImplicit false

namespace MediaSearch.Yaml

inductive Chomping where
  | strip | clip | keep
  deriving DecidableEq, Repr

/-- The sign of a block scalar: whether it is folded, how far its lines are indented if that is
said, and what becomes of its end. -/
structure BlockHeader where
  folded : Bool
  indentation : Option Nat := none
  chomping : Chomping := .clip
  deriving DecidableEq, Repr

/-- Reads what stands behind the sign on its line, and gives the text from the next line on. -/
def BlockHeader.read? (header : BlockHeader) : List Char → Option (BlockHeader × List Char)
  | [] => some (header, [])
  | character :: rest =>
      if character = '+' then BlockHeader.read? { header with chomping := .keep } rest
      else if character = '-' then BlockHeader.read? { header with chomping := .strip } rest
      else if '1' ≤ character && character ≤ '9' then
        BlockHeader.read? { header with indentation := some (character.toNat - '0'.toNat) } rest
      else if isLineEnd character then some (header, rest)
      else if character = ' ' || character = '#' then
        some (header, ((character :: rest).dropWhile (!isLineEnd ·)).drop 1)
      else none

structure BlockLine where
  text : List Char
  lineEnd : List Char

def extendFirst (character : Char) : List BlockLine → List BlockLine
  | [] => [⟨[character], []⟩]
  | line :: lines => { line with text := character :: line.text } :: lines

def blockLines : List Char → List BlockLine
  | [] => []
  | character :: rest =>
      if isLineEnd character then ⟨[], [character]⟩ :: blockLines rest
      else extendFirst character (blockLines rest)

def BlockLine.join (lines : List BlockLine) : List Char :=
  lines.flatMap fun line => line.text ++ line.lineEnd

def BlockLine.indentation (line : BlockLine) : Nat :=
  (line.text.takeWhile (· == ' ')).length

def BlockLine.isEmptyWithin (indentation : Nat) (line : BlockLine) : Bool :=
  line.text.length = line.indentation && line.indentation ≤ indentation && !line.lineEnd.isEmpty

/-- The indentation of lines that do not say it: that of the first line with something on it, or of
an emptier one before it that is longer. -/
def detectIndentation (lines : List BlockLine) : Nat :=
  let empty := lines.takeWhile fun line =>
    line.text.length = line.indentation && !line.lineEnd.isEmpty
  let upToFirst := empty ++ (lines.drop empty.length).take 1
  upToFirst.foldl (fun most line => max most line.indentation) 0

def startsBlank : List Char → Bool
  | ' ' :: _ | '\t' :: _ => true
  | _ => false

/-- The text of a block scalar from a line on, and the lines behind it. Told the indentation, the
line before with the line ends after it, if there was one. -/
def blockFrom (header : BlockHeader) (indentation : Nat)
    (before : Option BlockLine) (ends : List Char) : List BlockLine → List Char × List BlockLine
  | [] => (chomped before ends, [])
  | line :: rest =>
      if line.isEmptyWithin indentation then
        blockFrom header indentation before (ends ++ line.lineEnd) rest
      else if line.indentation < indentation || line.text.length = indentation then
        (chomped before ends, line :: rest)
      else
        let content := line.text.drop indentation
        let (more, behind) :=
          blockFrom header indentation (some { line with text := content }) [] rest
        (joint content ++ content ++ more, behind)
where
  chomped (before : Option BlockLine) (ends : List Char) : List Char :=
    let lineEnd := (before.map (·.lineEnd)).getD []
    match header.chomping with
    | .strip => []
    | .clip => lineEnd
    | .keep => lineEnd ++ ends
  joint (content : List Char) : List Char :=
    match before with
    | none => ends
    | some line =>
        (if header.folded && line.lineEnd = ['\n'] && !startsBlank line.text &&
            !startsBlank content then
          (if ends.isEmpty then [' '] else [])
        else line.lineEnd) ++ ends

/-- The block scalar whose sign stands before a text, and the text behind it. Told the least column
of its lines. -/
def blockScalar? (folded : Bool) (least : Nat) (text : List Char) :
    Option (List Char × List Char) :=
  (BlockHeader.read? ⟨folded, none, .clip⟩ text).map fun (header, rest) =>
    let lines := blockLines rest
    let least := max least 1
    let indentation := match header.indentation with
      | some further => least + further - 1
      | none => max least (detectIndentation lines)
    let (scalar, behind) := blockFrom header indentation none [] lines
    (scalar, BlockLine.join behind)

end MediaSearch.Yaml

import MediaSearch.Text.LetterCase.Table

/-!
# Letter case

Lower case, upper case and capitalised form of texts in any script. Some letters change into
several, and a capital sigma becomes its final form at the end of a word.
-/

set_option autoImplicit false

namespace MediaSearch.Text

/-- Looks a code point up among sequences first and single steps after that; a letter in neither
has no other case. -/
def changeCase (sequences : List (Nat × List Nat)) (steps : List CaseStep) (character : Char) :
    List Char :=
  match sequences.lookup character.toNat with
  | some codes => codes.map Char.ofNat
  | none =>
      match steps.find? (·.holds character.toNat) with
      | some entry => [Char.ofNat (character.toNat + entry.shift).toNat]
      | none => [character]

def lowerLetter (character : Char) : List Char :=
  if character.toNat < 128 then [character.toLower]
  else changeCase lowerSequences lowerSteps character

def upperLetter (character : Char) : List Char :=
  if character.toNat < 128 then [character.toUpper]
  else changeCase upperSequences upperSteps character

/-- The form of a letter at the start of a name: upper case with few exceptions. -/
def titleLetter (character : Char) : List Char :=
  match titleSequences.lookup character.toNat with
  | some codes => codes.map Char.ofNat
  | none => upperLetter character

def isCaseIgnorable (character : Char) : Bool :=
  if character.toNat < 128 then
    character == '\'' || character == '.' || character == ':' || character == '^'
      || character == Char.ofNat 0x60
  else caseIgnorableRanges.contains character.toNat

def isCased (character : Char) : Bool :=
  if character.toNat < 128 then character.isAlpha else casedRanges.contains character.toNat

/-- Whether the word goes on: the first character that is not looked past is a letter. -/
def continuesWord : List Char → Bool
  | [] => false
  | character :: rest =>
      if isCaseIgnorable character then continuesWord rest else isCased character

/-- Whether the character before is a letter of the word, given whether the one before it was. -/
def wordGoesOn (insideWord : Bool) (character : Char) : Bool :=
  if isCaseIgnorable character then insideWord else isCased character

/-- Lower case of a text, told whether a word stands just before it. A capital sigma takes its
final form after a letter if no letter follows. -/
def lowerAfter (insideWord : Bool) : List Char → List Char
  | [] => []
  | character :: rest =>
      (if character = 'Σ' then
        [if insideWord && !continuesWord rest then 'ς' else 'σ']
      else lowerLetter character) ++ lowerAfter (wordGoesOn insideWord character) rest

def lower (text : List Char) : List Char :=
  lowerAfter false text

def upper (text : List Char) : List Char :=
  text.flatMap upperLetter

/-- The first letter in its form for the start of a name and the rest in lower case. -/
def capitalize : List Char → List Char
  | [] => []
  | character :: rest =>
      titleLetter character ++ lowerAfter (wordGoesOn false character) rest

@[simp]
theorem lower_nil : lower [] = [] := rfl

@[simp]
theorem capitalize_nil : capitalize [] = [] := rfl

end MediaSearch.Text

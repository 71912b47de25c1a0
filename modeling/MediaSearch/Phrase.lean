import MediaSearch.Text.Occurrence
import MediaSearch.Text.LetterCase
import MediaSearch.Text.WordCharacter
import MediaSearch.Numeral

/-!
# Phrases in texts

Recognisers look at the front of a text; a search applies one at every place and takes the first
hit from the left. Words have to be spelled in lower case, since texts are searched in lower case.
-/

set_option autoImplicit false

namespace MediaSearch.Phrase

open MediaSearch.Text

/-- The first hit from the left of a recogniser that also sees the character before its place. -/
def firstAfter {α : Type} (recognise : Option Char → List Char → Option α) :
    (before : Option Char) → List Char → Option α
  | before, [] => recognise before []
  | before, character :: rest =>
      match recognise before (character :: rest) with
      | some hit => some hit
      | none => firstAfter recognise (some character) rest

def first {α : Type} (recognise : List Char → Option α) : List Char → Option α
  | [] => recognise []
  | character :: rest =>
      match recognise (character :: rest) with
      | some hit => some hit
      | none => first recognise rest

theorem first_isSome_iff {α : Type} {recognise : List Char → Option α} {text : List Char} :
    (first recognise text).isSome = true ↔
      ∃ before after, text = before ++ after ∧ (recognise after).isSome = true := by
  induction text with
  | nil =>
      constructor
      · exact fun hit => ⟨[], [], rfl, hit⟩
      · rintro ⟨before, after, split, hit⟩
        obtain ⟨rfl, rfl⟩ := List.append_eq_nil_iff.mp split.symm
        exact hit
  | cons character rest ih =>
      cases here : recognise (character :: rest) with
      | some hit =>
          simp only [first, here, Option.isSome_some, true_iff]
          exact ⟨[], character :: rest, rfl, by simp [here]⟩
      | none =>
          simp only [first, here, ih]
          constructor
          · rintro ⟨before, after, rfl, hit⟩
            exact ⟨character :: before, after, rfl, hit⟩
          · rintro ⟨before, after, split, hit⟩
            cases before with
            | nil =>
                obtain rfl : character :: rest = after := split
                simp [here] at hit
            | cons head before =>
                obtain ⟨rfl, rfl⟩ := List.cons.inj split
                exact ⟨before, after, rfl, hit⟩

/-- Whether the word stands anywhere in the text, inside of longer words too. -/
def mentions (text : List Char) (word : String) : Bool :=
  occursIn word.toList text

def afterWord? (words : List String) (text : List Char) : Option (List Char) :=
  afterAny? (words.map String.toList) text

/-- What follows a word, or the text itself if it does not begin with the word. -/
def afterOptionalWord (words : List String) (text : List Char) : List Char :=
  (afterWord? words text).getD text

/-- The text without blanks at its front. -/
def skipBlanks (text : List Char) : List Char :=
  text.dropWhile isBlank

/-- The text behind one or more blanks. -/
def afterBlanks? (text : List Char) : Option (List Char) :=
  if text.head?.any isBlank then some (skipBlanks text) else none

/-- Exactly so many digits at the front of the text, as a number. -/
def fixedDigits? (count : Nat) (text : List Char) : Option Nat :=
  let digits := text.take count
  if digits.length = count && digits.all isDigit then some (digitsValue digits) else none

def someDigits? (text : List Char) : Option (List Char × List Char) :=
  let (digits, rest) := Numeral.spanDigits text
  if digits.isEmpty then none else some (digits, rest)

end MediaSearch.Phrase

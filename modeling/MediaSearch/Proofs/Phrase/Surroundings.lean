import MediaSearch.Proofs.Phrase.Steps

/-!
# Texts within longer texts

What surrounds a text changes its lower case in one way only: a capital sigma may take its other
form. Whatever has no sigma in it therefore still stands in the lower case of the longer text, and a
recogniser that such a phrase satisfies, however it goes on, still finds something there.
-/

set_option autoImplicit false

namespace MediaSearch.Phrase

open MediaSearch.Text

/-!
## Both forms of a sigma
-/

/-- The two forms of a small sigma made one. -/
def mergeSigma (character : Char) : Char :=
  if character = 'ς' then 'σ' else character

/-- No sigma is in the text, so that its lower case depends on nothing around it. -/
def Steady (text : List Char) : Prop :=
  ∀ character ∈ text, character ≠ 'σ' ∧ character ≠ 'ς'

instance (text : List Char) : Decidable (Steady text) :=
  List.decidableBAll _ text

theorem steady_append {front back : List Char} :
    Steady (front ++ back) ↔ Steady front ∧ Steady back :=
  List.forall_mem_append

theorem steady_of_all {test : Char → Bool} (small : test 'σ' = false) (final : test 'ς' = false)
    {text : List Char} (passes : text.all test = true) : Steady text := by
  intro character member
  have here := List.all_eq_true.mp passes character member
  constructor
  · rintro rfl
    rw [small] at here
    cases here
  · rintro rfl
    rw [final] at here
    cases here

theorem steady_blanks {blanks : List Char} (blank : blanks.all isBlank = true) : Steady blanks :=
  steady_of_all (by decide) (by decide) blank

theorem steady_digits {digits : List Char} (numeric : digits.all isDigit = true) :
    Steady digits :=
  steady_of_all (by decide) (by decide) numeric

theorem Steady.eq_of_map_mergeSigma {phrase text : List Char} (steady : Steady phrase)
    (merged : text.map mergeSigma = phrase.map mergeSigma) : text = phrase := by
  induction phrase generalizing text with
  | nil => exact List.map_eq_nil_iff.mp merged
  | cons wanted phrase ih =>
      obtain ⟨⟨notSmall, notFinal⟩, steady⟩ := List.forall_mem_cons.mp steady
      cases text with
      | nil => cases merged
      | cons character text =>
          obtain ⟨same, merged⟩ := List.cons.inj merged
          rw [mergeSigma, mergeSigma, if_neg notFinal] at same
          split at same
          · exact absurd same.symm notSmall
          · rw [same, ih steady merged]

/-!
## Lower case
-/

def lowerMerged (character : Char) : List Char :=
  if character = 'Σ' then ['σ'] else (lowerLetter character).map mergeSigma

/-- Up to the form of sigmas, texts change into lower case letter by letter. -/
theorem map_mergeSigma_lowerAfter (insideWord : Bool) (text : List Char) :
    (lowerAfter insideWord text).map mergeSigma = text.flatMap lowerMerged := by
  induction text generalizing insideWord with
  | nil => rfl
  | cons character rest ih =>
      rw [lowerAfter, List.map_append, ih, List.flatMap_cons, lowerMerged]
      split
      · split <;> rfl
      · rfl

/-- Each phrase without a sigma that stands in one text stands in the other, too. -/
def Keeps (text longer : List Char) : Prop :=
  ∀ phrase, Steady phrase → phrase <:+: text → phrase <:+: longer

theorem keeps_lower (before text after : List Char) :
    Keeps (lower text) (lower (before ++ text ++ after)) := by
  rintro phrase steady ⟨front, back, split⟩
  have inText : text.flatMap lowerMerged =
      front.map mergeSigma ++ phrase.map mergeSigma ++ back.map mergeSigma := by
    rw [← map_mergeSigma_lowerAfter false, ← List.map_append, ← List.map_append, split]
    rfl
  have merged : (lower (before ++ text ++ after)).map mergeSigma =
      (before.flatMap lowerMerged ++ front.map mergeSigma) ++ phrase.map mergeSigma ++
        (back.map mergeSigma ++ after.flatMap lowerMerged) := by
    rw [lower, map_mergeSigma_lowerAfter, List.flatMap_append, List.flatMap_append, inText]
    simp only [List.append_assoc]
  obtain ⟨begun, rest, whole, begins, _⟩ := List.map_eq_append_iff.mp merged
  obtain ⟨earlier, found, rfl, _, same⟩ := List.map_eq_append_iff.mp begins
  obtain rfl := steady.eq_of_map_mergeSigma same
  exact ⟨earlier, rest, whole.symm⟩

/-!
## Searches
-/

section Search

variable {text longer : List Char}

theorem Keeps.mentions_eq_true (keeps : Keeps text longer) {word : String} (steady : Steady word.toList)
    (mentioned : mentions text word = true) : mentions longer word = true :=
  occursIn_iff.mpr (keeps _ steady (occursIn_iff.mp mentioned))

theorem Keeps.any_mentions_eq_true (keeps : Keeps text longer) {words : List String}
    (steady : ∀ word ∈ words, Steady word.toList) (mentioned : words.any (mentions text) = true) :
    words.any (mentions longer) = true := by
  obtain ⟨word, listed, here⟩ := List.any_eq_true.mp mentioned
  exact List.any_eq_true.mpr ⟨word, listed, keeps.mentions_eq_true (steady word listed) here⟩

variable {α : Type} {recognise : List Char → Option α}

/-- Where the recogniser finds anything, it does so for the sake of a phrase without a sigma, and
finds something behind whatever that phrase goes on with. -/
def Lasting (recognise : List Char → Option α) : Prop :=
  ∀ text, (recognise text).isSome = true → ∃ phrase rest, text = phrase ++ rest ∧ Steady phrase ∧
    ∀ other, (recognise (phrase ++ other)).isSome = true

theorem lasting_of_recognises {reads : Reading α}
    (agrees : Recognises (fun _ => recognise) reads)
    (lasts : ∀ text value, reads [] text value → ∃ phrase rest, text = phrase ++ rest ∧
      Steady phrase ∧ ∀ other, reads [] (phrase ++ other) value) :
    Lasting recognise := by
  intro text found
  obtain ⟨value, read⟩ := Option.isSome_iff_exists.mp found
  obtain ⟨phrase, rest, rfl, steady, again⟩ := lasts text value ((agrees [] text value).mp read)
  refine ⟨phrase, rest, rfl, steady, fun other => ?_⟩
  exact Option.isSome_iff_exists.mpr ⟨value, (agrees [] _ value).mpr (again other)⟩

theorem Lasting.isSome_first (lasting : Lasting recognise) (keeps : Keeps text longer)
    (found : (first recognise text).isSome = true) : (first recognise longer).isSome = true := by
  obtain ⟨before, after, rfl, hit⟩ := first_isSome_iff.mp found
  obtain ⟨phrase, rest, rfl, steady, again⟩ := lasting after hit
  obtain ⟨front, back, rfl⟩ := keeps phrase steady ⟨before, rest, List.append_assoc ..⟩
  exact first_isSome_iff.mpr ⟨front, phrase ++ back, List.append_assoc .., again back⟩

end Search

end MediaSearch.Phrase

import MediaSearch.Proofs.Phrase.Readings

/-!
# Lower case of plain texts

Texts of basic letters, digits of any script and other characters below 128 change into lower case
letter by letter.
-/

set_option autoImplicit false

namespace MediaSearch.Phrase

open MediaSearch.Text

/-- A character below 128, or a digit of any script. -/
def IsPlain (character : Char) : Prop :=
  character.toNat < 128 ∨ isDigit character = true

instance (character : Char) : Decidable (IsPlain character) :=
  inferInstanceAs (Decidable (_ ∨ _))

/-- No digit lies in the tables of letters that have a lower case of their own. -/
theorem digitRanges_apart_from_case :
    (∀ range ∈ digitRanges, ∀ step ∈ lowerSteps, range.2 < step.first ∨ step.last < range.1) ∧
      ∀ range ∈ digitRanges, ∀ sequence ∈ lowerSequences,
        range.2 < sequence.1 ∨ sequence.1 < range.1 := by
  decide +kernel

theorem changeCase_of_isDigit {character : Char} (digit : isDigit character = true) :
    changeCase lowerSequences lowerSteps character = [character] := by
  obtain ⟨range, known, above, below⟩ := exists_digitRange digit
  have noSequence : lowerSequences.lookup character.toNat = none := by
    refine List.lookup_eq_none_iff.mpr fun sequence listed => ?_
    have apart := digitRanges_apart_from_case.2 range known sequence listed
    simp
    omega
  have noStep : lowerSteps.find? (·.holds character.toNat) = none := by
    refine List.find?_eq_none.mpr fun step listed => ?_
    have apart := digitRanges_apart_from_case.1 range known step listed
    simp [CaseStep.holds]
    omega
  rw [changeCase, noSequence, noStep]

theorem toLower_eq_self {character : Char} (high : 128 ≤ character.toNat) :
    character.toLower = character := by
  unfold Char.toLower
  rw [dif_neg]
  rintro ⟨_, small⟩
  have bound : character.toNat ≤ 90 := small
  omega

theorem toLower_of_isDigit {character : Char} (digit : isDigit character = true) :
    character.toLower = character := by
  have apart : ∀ range ∈ digitRanges, range.2 < 65 ∨ 90 < range.1 := by
    decide
  obtain ⟨range, known, least, greatest⟩ := exists_digitRange digit
  unfold Char.toLower
  rw [dif_neg]
  rintro ⟨above, below⟩
  have above : 65 ≤ character.toNat := above
  have below : character.toNat ≤ 90 := below
  rcases apart range known with before | behind
  · omega
  · omega

theorem isPlain_of_all {text : List Char} (basic : text.all (·.toNat < 128) = true) :
    ∀ character ∈ text, IsPlain character :=
  fun character member => .inl (of_decide_eq_true (List.all_eq_true.mp basic character member))

theorem lowerLetter_of_isPlain {character : Char} (plain : IsPlain character) :
    lowerLetter character = [character.toLower] := by
  unfold lowerLetter
  split
  · rfl
  · rename_i high
    have digit := plain.resolve_left high
    rw [changeCase_of_isDigit digit, toLower_eq_self (by omega)]

theorem isPlain_of_toLower {character : Char} (plain : IsPlain character.toLower) :
    IsPlain character := by
  by_cases low : character.toNat < 128
  · exact .inl low
  · rwa [toLower_eq_self (by omega)] at plain

theorem ne_sigma_of_isPlain {character : Char} (plain : IsPlain character) :
    character ≠ 'Σ' := by
  rintro rfl
  exact absurd plain (by decide)

theorem lowerAfter_of_isPlain (insideWord : Bool) {text : List Char}
    (plain : ∀ character ∈ text, IsPlain character) :
    lowerAfter insideWord text = text.map Char.toLower := by
  induction text generalizing insideWord with
  | nil => rfl
  | cons character text ih =>
      obtain ⟨here, rest⟩ := List.forall_mem_cons.mp plain
      rw [lowerAfter, if_neg (ne_sigma_of_isPlain here), lowerLetter_of_isPlain here, ih _ rest]
      rfl

theorem lower_of_isPlain {text : List Char} (plain : ∀ character ∈ text, IsPlain character) :
    lower text = text.map Char.toLower :=
  lowerAfter_of_isPlain false plain

end MediaSearch.Phrase

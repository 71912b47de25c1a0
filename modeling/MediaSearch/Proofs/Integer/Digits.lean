import MediaSearch.Integer
import MediaSearch.Proofs.Text.Splitting

/-!
# Integers in digits

The digits of an integer give it back, and their number tells its size. What follows the digits is
told apart from them as long as it begins with neither a digit nor a sign.
-/

set_option autoImplicit false

namespace MediaSearch.Integer

theorem isDigit_of_mem_digits {value : Nat} {character : Char} (member : character ∈ digits value) :
    character.isDigit = true :=
  Nat.isDigit_of_mem_toDigits (by decide) (by decide) member

theorem ofDigitChars_digits (value : Nat) : Nat.ofDigitChars 10 (digits value) 0 = value :=
  Nat.ofDigitChars_ten_toDigits

theorem digits_inj {left right : Nat} (same : digits left = digits right) : left = right := by
  rw [← ofDigitChars_digits left, same, ofDigitChars_digits]

theorem natCast_pow_ten (count : Nat) : ((Nat.pow 10 count : Nat) : Int) = Int.pow 10 count :=
  Int.natCast_pow 10 count

theorem length_digits_le_iff {value count : Nat} (positive : 0 < count) :
    (digits value).length ≤ count ↔ (value : Int) < Int.pow 10 count := by
  rw [← natCast_pow_ten, Int.ofNat_lt]
  exact Nat.length_toDigits_le_iff (by decide) positive

theorem hundred_le_pow {count : Nat} (enough : 2 ≤ count) : 100 ≤ Int.pow 10 count := by
  rw [← natCast_pow_ten]
  exact Int.ofNat_le.mpr (Nat.pow_le_pow_right (by decide) enough : 10 ^ 2 ≤ 10 ^ count)

/-- The least number that has too many digits. -/
def bound : Int := Int.pow 10 maxDigits

theorem hundred_le_bound : 100 ≤ bound :=
  hundred_le_pow (by decide)

theorem fits_iff {value : Int} : fits value = true ↔ -bound < value ∧ value < bound := by
  rw [fits, decide_eq_true_eq, length_digits_le_iff (by decide), bound]
  generalize Int.pow 10 maxDigits = limit
  omega

theorem write_of_fits {value : Int} (small : -bound < value ∧ value < bound) :
    write value = .ok (text value) :=
  if_pos (fits_iff.mpr small)

theorem write_of_not_fits {value : Int} (large : ¬ (-bound < value ∧ value < bound)) :
    write value = .error .tooManyDigits :=
  if_neg (mt fits_iff.mp large)

/-- Whether a character may stand in the text of an integer. -/
def isPart (character : Char) : Bool :=
  character.isDigit || character == '-'

theorem isPart_of_mem_characters {value : Int} {character : Char}
    (member : character ∈ characters value) : isPart character = true := by
  unfold isPart
  rw [Bool.or_eq_true, beq_iff_eq]
  cases value with
  | ofNat value => exact .inl (isDigit_of_mem_digits member)
  | negSucc value =>
      rcases List.mem_cons.mp member with sign | digit
      · exact .inr sign
      · exact .inl (isDigit_of_mem_digits digit)

/-- Digits have no sign in front. -/
theorem digits_ne_sign_cons (value : Nat) (rest : List Char) : digits value ≠ '-' :: rest := by
  intro same
  have signed : '-' ∈ digits value := same ▸ List.mem_cons_self
  exact absurd (isDigit_of_mem_digits signed) (by decide)

theorem characters_inj {left right : Int} (same : characters left = characters right) :
    left = right := by
  cases left with
  | ofNat left =>
      cases right with
      | ofNat right => exact congrArg Int.ofNat (digits_inj same)
      | negSucc right => exact absurd same (digits_ne_sign_cons left _)
  | negSucc left =>
      cases right with
      | ofNat right => exact absurd same.symm (digits_ne_sign_cons right _)
      | negSucc right =>
          have next : left + 1 = right + 1 := digits_inj (List.cons.inj same).2
          rw [Nat.succ.inj next]

/-- An integer and what follows it are both told by the text that they make up. -/
theorem characters_append_inj {left right : Int} {leftRest rightRest : List Char}
    (leftApart : Text.Apart isPart leftRest) (rightApart : Text.Apart isPart rightRest)
    (same : characters left ++ leftRest = characters right ++ rightRest) :
    left = right ∧ leftRest = rightRest :=
  (Text.append_inj_of_apart (fun _ => isPart_of_mem_characters) (fun _ => isPart_of_mem_characters)
    leftApart rightApart same).imp_left characters_inj

end MediaSearch.Integer

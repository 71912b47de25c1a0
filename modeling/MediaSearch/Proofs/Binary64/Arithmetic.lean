import MediaSearch.Proofs.Binary64.Rounding

/-!
# Arithmetic without overflow

A product overflows only if it is too great itself. A sum of which one part is small does not, and
so neither does the floor of a quotient by a number that is neither great nor small.
-/

set_option autoImplicit false

namespace MediaSearch.Binary64

/-- A number is small if no sum overflows for taking it in. -/
def IsSmall (value : ℚ) : Prop := |value| ≤ 2 ^ 60

theorem abs_value_add_lt_overflow (number : Finite) {value : ℚ} (small : IsSmall value) :
    |number.value| + |value| < overflow := by
  have bound := number.abs_value_le
  have half : (2 : ℚ) ^ (62 : ℤ) ≤ 2 ^ (971 : ℤ) := unit_mono (by decide)
  unfold IsSmall at small
  unfold overflow
  generalize (2 : ℚ) ^ (971 : ℤ) = unit at *
  norm_num at half small
  linarith

theorem abs_value_lt_overflow (number : Finite) : |number.value| < overflow := by
  have sum := @abs_value_add_lt_overflow number 0 (by simp [IsSmall])
  rwa [abs_zero, add_zero] at sum

theorem isFinite_add {left right : Finite} (small : IsSmall left.value ∨ IsSmall right.value) :
    IsFinite (add (.finite left) (.finite right)) := by
  apply isFinite_ofRat_iff.mpr
  apply (abs_add_le left.value right.value).trans_lt
  rcases small with small | small
  · rw [add_comm]
    exact abs_value_add_lt_overflow right small
  · exact abs_value_add_lt_overflow left small

theorem Finite.value_neg (number : Finite) :
    Finite.value { number with negative := !number.negative } = -number.value := by
  obtain ⟨negative, significand, exponent, canonical⟩ := number
  cases negative <;> simp [value, magnitude]

theorem isFinite_sub {left right : Finite} (small : IsSmall left.value ∨ IsSmall right.value) :
    IsFinite (sub (.finite left) (.finite right)) := by
  apply isFinite_add
  rwa [Finite.value_neg, IsSmall, IsSmall, abs_neg]

theorem small_lt_overflow {value : ℚ} (small : IsSmall value) : |value| < overflow := by
  have sum := abs_value_add_lt_overflow ⟨false, 0, -1074, by decide⟩ small
  exact lt_of_le_of_lt (le_add_of_nonneg_left (abs_nonneg _)) sum

theorem exists_finite_ofInt {value : Int} (small : |(value : ℚ)| ≤ 2 ^ 59) :
    ∃ number : Finite, ofInt value = .finite number ∧ |number.value| ≤ 2 * |(value : ℚ)| :=
  exists_finite_of_lt false (small_lt_overflow (small.trans (by norm_num)))

theorem exists_finite_one : ∃ one : Finite, ofInt 1 = .finite one ∧ IsSmall one.value := by
  obtain ⟨one, finite, close⟩ := @exists_finite_ofInt 1 (by norm_num)
  exact ⟨one, finite, close.trans (by norm_num)⟩

theorem not_isFinite_sub {left : Finite} {right : Binary64} (large : ¬ IsFinite right) :
    ¬ IsFinite (sub (.finite left) right) := by
  cases right with
  | finite number => exact absurd ⟨number, rfl⟩ large
  | infinite negative => exact not_isFinite_infinite _
  | nan => exact not_isFinite_nan

/-!
## Floors of quotients
-/

theorem abs_sub_truncateRat_lt (value : ℚ) : |value - truncateRat value| < 1 := by
  have positive : (0 : ℚ) < value.den := by exact_mod_cast value.den_pos
  have parts : (value.num.tmod value.den : ℚ) + value.den * truncateRat value = value.num := by
    exact_mod_cast Int.tmod_add_mul_tdiv value.num value.den
  have left : value - truncateRat value = value.num.tmod value.den / value.den := by
    rw [eq_div_iff positive.ne', sub_mul, Rat.mul_den_eq_num]
    linarith
  have denominator : (0 : Int) < value.den := by exact_mod_cast value.den_pos
  have less : |value.num.tmod value.den| < value.den :=
    abs_lt.mpr ⟨Int.lt_tmod_of_pos value.num denominator, Int.tmod_lt_of_pos value.num denominator⟩
  rw [left, abs_div, abs_of_pos positive, div_lt_one positive]
  exact_mod_cast less

theorem exists_finite_remainderBy (number : Finite) {divisor : Finite} (least : 1 ≤ divisor.value)
    (most : divisor.value ≤ 2 ^ 58) :
    ∃ remainder : Finite, remainderBy number divisor = .finite remainder ∧
      IsSmall remainder.value := by
  have positive : 0 < divisor.value := lt_of_lt_of_le one_pos least
  have left : number.value - divisor.value * truncateRat (number.value / divisor.value) =
      divisor.value * (number.value / divisor.value -
        truncateRat (number.value / divisor.value)) := by
    field_simp
  have less : |number.value - divisor.value * truncateRat (number.value / divisor.value)| ≤
      2 ^ 58 := by
    rw [left, abs_mul, abs_of_pos positive]
    have part := abs_sub_truncateRat_lt (number.value / divisor.value)
    exact (mul_le_of_le_one_right positive.le part.le).trans most
  obtain ⟨remainder, finite, close⟩ := exists_finite_of_lt number.negative
    (small_lt_overflow (less.trans (by norm_num)))
  exact ⟨remainder, finite, close.trans (by linarith)⟩

theorem isFinite_divBy (number : Finite) {divisor : Finite} (least : 1 ≤ divisor.value) :
    IsFinite (divBy (.finite number) divisor) := by
  apply isFinite_ofRat_iff.mpr
  apply lt_of_le_of_lt _ (abs_value_lt_overflow number)
  rw [abs_div, abs_of_pos (lt_of_lt_of_le one_pos least)]
  exact div_le_self (abs_nonneg _) least

theorem isFinite_floor (number : Finite) : IsFinite (floor (.finite number)) := by
  apply isFinite_ofRat_iff.mpr
  apply lt_of_le_of_lt _ (@abs_value_add_lt_overflow number 1 (by norm_num [IsSmall]))
  have below : ((number.value.floor : Int) : ℚ) ≤ number.value := Int.floor_le number.value
  have above : number.value < (number.value.floor : Int) + 1 := Int.lt_floor_add_one number.value
  rw [abs_one, abs_le]
  constructor
  · linarith [neg_abs_le number.value]
  · linarith [le_abs_self number.value]

theorem floorDivBy_of_not_isFinite {number : Binary64} (large : ¬ IsFinite number)
    (divisor : Finite) : floorDivBy number divisor = .nan := by
  cases number with
  | finite number => exact absurd ⟨number, rfl⟩ large
  | infinite negative => rfl
  | nan => rfl

theorem isFinite_floorDivBy (number : Finite) {divisor : Finite} (least : 1 ≤ divisor.value)
    (most : divisor.value ≤ 2 ^ 58) : IsFinite (floorDivBy (.finite number) divisor) := by
  obtain ⟨remainder, remainder_eq, small⟩ := exists_finite_remainderBy number least most
  obtain ⟨difference, difference_eq⟩ := @isFinite_sub number _ (.inr small)
  obtain ⟨quotient, quotient_eq⟩ := isFinite_divBy difference least
  obtain ⟨one, one_eq, oneSmall⟩ := exists_finite_one
  unfold floorDivBy
  dsimp only
  rw [remainder_eq, difference_eq, quotient_eq, one_eq]
  -- Whatever the remainder, the quotient that is corrected is finite.
  obtain ⟨whole, whole_eq⟩ : IsFinite (if lt (.finite remainder) (zero false) then
      sub (.finite quotient) (.finite one) else .finite quotient) := by
    split_ifs
    · exact isFinite_sub (.inr oneSmall)
    · exact ⟨quotient, rfl⟩
  obtain ⟨floored, floored_eq⟩ := isFinite_floor whole
  rw [whole_eq, floored_eq]
  split_ifs
  · exact ⟨_, rfl⟩
  · exact isFinite_add (.inr oneSmall)
  · exact ⟨floored, rfl⟩

end MediaSearch.Binary64

import MediaSearch.Proofs.Binary64.Nearest

/-!
# Digits that are read back

The digits that a number is written with lie so near to it that they are read back as the same number.
Seventeen digits always do.
-/

set_option autoImplicit false

namespace MediaSearch.Binary64

theorem tenPower_eq (exponent : Int) : tenPower exponent = (10 : ℚ) ^ exponent := by
  rw [tenPower, Rat.mkRat_eq_div]
  rcases exponent.eq_nat_or_neg with ⟨magnitude, rfl | rfl⟩
  · simp
  · simp

theorem ten_zpow_pos (exponent : Int) : (0 : ℚ) < 10 ^ exponent := by
  positivity

/-- The digits of a positive number are as many as its order of magnitude tells. -/
theorem ten_pow_le_of_digits {value : Nat} (positive : 0 < value) :
    (10 : ℚ) ^ ((Integer.digits value).length - 1 : Int) ≤ value := by
  unfold Integer.digits
  obtain ⟨fewer, length⟩ : ∃ fewer, (Nat.toDigits 10 value).length = fewer + 1 :=
    Nat.exists_eq_succ_of_ne_zero Nat.length_toDigits_pos.ne'
  rw [length, Nat.cast_add_one, add_sub_cancel_right, zpow_natCast]
  rcases Nat.eq_zero_or_pos fewer with rfl | some
  · rw [pow_zero, Nat.one_le_cast]
    exact positive
  · have many : ¬ (Nat.toDigits 10 value).length ≤ fewer := by omega
    rw [Nat.length_toDigits_le_iff (by decide) some, Nat.not_lt] at many
    exact_mod_cast many

theorem lt_ten_pow_of_digits (value : Nat) : value < 10 ^ (Integer.digits value).length :=
  (Nat.length_toDigits_le_iff (by decide) Nat.length_toDigits_pos).mp le_rfl

theorem toNat_floor_bounds {value : ℚ} (nonneg : 0 ≤ value) :
    (value.floor.toNat : ℚ) ≤ value ∧ value < value.floor.toNat + 1 := by
  have floor_nonneg : 0 ≤ value.floor := Rat.le_floor_iff.mpr (by exact_mod_cast nonneg)
  have cast : (value.floor.toNat : ℚ) = value.floor := by
    rw [← Int.cast_natCast, Int.toNat_of_nonneg floor_nonneg]
  rw [cast]
  refine ⟨Rat.floor_le value, ?_⟩
  have above := Rat.lt_floor_add_one value
  rwa [Int.cast_add, Int.cast_one] at above

theorem one_le_toNat_floor {value : ℚ} (least : 1 ≤ value) : 1 ≤ value.floor.toNat := by
  have floor : 1 ≤ value.floor := Rat.le_floor_iff.mpr (by exact_mod_cast least)
  omega

namespace Finite

variable {number : Finite}

theorem magnitude_pos (positive : 0 < number.significand) : 0 < number.magnitude := by
  rw [magnitude_eq_mul_unit]
  exact mul_pos (Nat.cast_pos.mpr positive) number.unit_pos

/-- The order counts no digit too many. -/
theorem ten_pow_decimalOrder_le (positive : 0 < number.significand) :
    (10 : ℚ) ^ (number.decimalOrder - 1) ≤ number.magnitude := by
  have sized := magnitude_pos positive
  unfold decimalOrder
  dsimp only
  split_ifs with one_le
  · exact (ten_pow_le_of_digits (one_le_toNat_floor one_le)).trans (toNat_floor_bounds sized.le).1
  · have numerator : 0 < number.magnitude.num := Rat.num_pos.mpr sized
    obtain ⟨whole, whole_eq⟩ := Int.eq_ofNat_of_zero_le numerator.le
    have whole_pos : 0 < whole := by omega
    have denominator : (0 : ℚ) < number.magnitude.den := Nat.cast_pos.mpr number.magnitude.den_pos
    rw [whole_eq, Int.toNat_natCast]
    -- The denominator has few digits more than the numerator has to be multiplied by.
    have quotient := lt_ten_pow_of_digits (number.magnitude.den / whole)
    generalize (Integer.digits (number.magnitude.den / whole)).length = places at quotient ⊢
    have few : number.magnitude.den ≤ whole * 10 ^ places :=
      (Nat.lt_mul_div_succ _ whole_pos).le.trans (Nat.mul_le_mul_left whole quotient)
    have order : (1 - places - 1 : Int) = -places := by omega
    rw [order, zpow_neg, zpow_natCast, ← number.magnitude.num_div_den, whole_eq, Int.cast_natCast,
      inv_eq_one_div, div_le_div_iff₀ (by positivity) denominator, one_mul]
    exact_mod_cast few

/-- A multiple of a fine power of ten lies near the number, on one side or the other. -/
theorem isNearest_of_close {value : ℚ} {step : ℚ} (fine : step * 10 ^ 16 ≤ number.magnitude)
    (close : |value - number.magnitude| ≤ step / 2) : number.isNearest value = true := by
  obtain ⟨above, below⟩ := abs_le.mp close
  have unit := number.unit_pos
  rw [magnitude_eq_mul_unit] at fine
  have stepLess : step / 2 < number.margin := by
    unfold margin
    split_ifs with power
    · rw [power.1, cast_two_pow] at fine
      linarith
    · have few := mul_le_mul_of_nonneg_right number.cast_significand_le unit.le
      linarith
  have margin := number.margin_le
  rw [isNearest_iff]
  refine ⟨⟨by linarith, by linarith⟩, fun _ => ⟨by linarith, by linarith⟩⟩

/-!
## Multiples of a power of ten
-/

theorem nearest_of_gridDigits? {scale : Int} {digits : Nat}
    (found : number.gridDigits? scale = some digits) :
    number.isNearest (digits * tenPower scale) = true ∧
      (number.magnitude / tenPower scale).floor.toNat ≤ digits := by
  unfold gridDigits? at found
  dsimp only at found
  split at found
  · cases found
  · rename_i lower _
    obtain rfl := Option.some.inj found
    exact ⟨lower, le_rfl⟩
  · rename_i _ upper
    obtain rfl := Option.some.inj found
    exact ⟨upper, Nat.le_succ _⟩
  · rename_i lower upper
    split_ifs at found
    · obtain rfl := Option.some.inj found
      exact ⟨lower, le_rfl⟩
    · obtain rfl := Option.some.inj found
      exact ⟨upper, Nat.le_succ _⟩
    · obtain rfl := Option.some.inj found
      refine ⟨?_, Nat.le_add_right _ _⟩
      rcases Nat.mod_two_eq_zero_or_one (number.magnitude / tenPower scale).floor.toNat with
        even | odd
      · rwa [even]
      · rwa [odd]

/-- Of two multiples of a fine power of ten around the number one is read back. -/
theorem exists_gridDigits? {scale : Int} (fine : (10 : ℚ) ^ scale * 10 ^ 16 ≤ number.magnitude) :
    ∃ digits, number.gridDigits? scale = some digits := by
  have step := ten_zpow_pos scale
  obtain ⟨below, above⟩ :=
    toNat_floor_bounds (div_nonneg number.magnitude_nonneg step.le)
  rw [le_div_iff₀ step] at below
  rw [div_lt_iff₀ step] at above
  unfold gridDigits?
  rw [tenPower_eq]
  generalize (number.magnitude / 10 ^ scale).floor.toNat = lower at below above
  dsimp only
  split
  · rename_i noLower noUpper
    exfalso
    by_cases close : number.magnitude - lower * 10 ^ scale ≤ 10 ^ scale / 2
    · refine Bool.eq_false_iff.mp noLower (isNearest_of_close fine ?_)
      rw [abs_le]
      constructor <;> linarith
    · refine Bool.eq_false_iff.mp noUpper (isNearest_of_close fine ?_)
      rw [abs_le]
      push_cast
      constructor <;> linarith
  · exact ⟨_, rfl⟩
  · exact ⟨_, rfl⟩
  · split_ifs <;> exact ⟨_, rfl⟩

/-!
## Shortest digits
-/

/-- The digits count a power of ten, and what they say is read back. -/
def IsWritten (number : Finite) (written : Nat × Int) : Prop :=
  0 < written.1 ∧ number.isNearest (written.1 * (10 : ℚ) ^ written.2) = true

theorem isWritten_shortestFrom (positive : 0 < number.significand) {more : Nat} (remaining : 0 < more)
    (few : more ≤ 17) : number.IsWritten (number.shortestFrom more) := by
  have order := ten_pow_decimalOrder_le positive
  induction more with
  | zero => exact absurd remaining (Nat.lt_irrefl 0)
  | succ more ih =>
      unfold shortestFrom
      dsimp only
      split
      · rename_i digits found
        obtain ⟨nearest, least⟩ := nearest_of_gridDigits? found
        rw [tenPower_eq] at nearest least
        refine ⟨Nat.lt_of_lt_of_le (one_le_toNat_floor ?_) least, nearest⟩
        rw [one_le_div (ten_zpow_pos _)]
        refine (zpow_le_zpow_right₀ (by norm_num) ?_).trans order
        omega
      · rename_i unfound
        rcases Nat.eq_zero_or_pos more with rfl | left
        · have fine : (10 : ℚ) ^ (number.decimalOrder - (17 - 0 : ℕ)) * 10 ^ 16 ≤
              number.magnitude := by
            rw [← zpow_natCast, ← zpow_add₀ (by norm_num)]
            refine le_trans (le_of_eq (congrArg _ ?_)) order
            omega
          obtain ⟨digits, found⟩ := exists_gridDigits? fine
          rw [unfound] at found
          cases found
        · exact ih left (Nat.le_of_succ_le few)

theorem isWritten_shortest (positive : 0 < number.significand) :
    number.IsWritten number.shortest :=
  isWritten_shortestFrom positive (by decide) le_rfl

end Finite

end MediaSearch.Binary64

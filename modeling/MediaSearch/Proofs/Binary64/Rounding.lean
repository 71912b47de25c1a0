import MediaSearch.Binary64
import Mathlib.Algebra.Order.Field.Power
import Mathlib.Algebra.Order.Field.Rat
import Mathlib.Data.Rat.Floor
import Mathlib.Tactic.FieldSimp
import Mathlib.Tactic.GCongr
import Mathlib.Tactic.Linarith
import Mathlib.Tactic.NormNum
import Mathlib.Tactic.Positivity
import Mathlib.Tactic.Ring

/-!
# Rounding

The number nearest to a rational number is finite unless the rational number is too far from zero.
-/

set_option autoImplicit false

namespace MediaSearch.Binary64

/-- What is so far from zero or further rounds to an infinity. The bound lies half a unit beyond the
greatest finite number. -/
def overflow : ℚ := (2 ^ 53 - 1 / 2) * 2 ^ (971 : ℤ)

/-!
## Powers of two
-/

theorem cast_two_pow (exponent : Nat) : ((Nat.pow 2 exponent : ℕ) : ℚ) = 2 ^ exponent :=
  Nat.cast_pow 2 exponent

theorem two_zpow (exponent : Int) :
    (2 : ℚ) ^ exponent =
      (Nat.pow 2 exponent.toNat : ℕ) / (Nat.pow 2 (-exponent).toNat : ℕ) := by
  rcases exponent.eq_nat_or_neg with ⟨magnitude, rfl | rfl⟩
  · simp
  · simp

theorem unit_mono {left right : Int} (ordered : left ≤ right) : (2 : ℚ) ^ left ≤ 2 ^ right :=
  zpow_le_zpow_right₀ one_le_two ordered

theorem Finite.magnitude_eq (number : Finite) :
    number.magnitude = number.significand * (2 : ℚ) ^ number.exponent := by
  rw [magnitude, Rat.mkRat_eq_div, two_zpow]
  push_cast
  ring

theorem Finite.magnitude_nonneg (number : Finite) : 0 ≤ number.magnitude := by
  rw [magnitude_eq]
  positivity

theorem Finite.abs_value (number : Finite) : |number.value| = number.magnitude := by
  unfold value
  split
  · rw [abs_neg, abs_of_nonneg number.magnitude_nonneg]
  · exact abs_of_nonneg number.magnitude_nonneg

/-- The greatest finite number lies half a unit below the bound. -/
theorem Finite.abs_value_le (number : Finite) :
    |number.value| ≤ (2 ^ 53 - 1) * (2 : ℚ) ^ (971 : ℤ) := by
  obtain ⟨below, _, least, _⟩ := number.canonical
  rw [abs_value, magnitude_eq]
  have significand : (number.significand : ℚ) ≤ 2 ^ 53 - 1 := by
    have next : ((number.significand + 1 : ℕ) : ℚ) ≤ (Nat.pow 2 53 : ℕ) := Nat.cast_le.mpr below
    rw [cast_two_pow, Nat.cast_add_one] at next
    linarith
  exact mul_le_mul significand (unit_mono least) (by positivity) (by norm_num)

theorem two_zpow_le_div_iff {numerator denominator : Nat} (proper : 0 < denominator)
    (exponent : Int) :
    (2 : ℚ) ^ exponent ≤ numerator / denominator ↔
      denominator * Nat.pow 2 exponent.toNat ≤ numerator * Nat.pow 2 (-exponent).toNat := by
  rw [two_zpow, div_le_div_iff₀ (Nat.cast_pos.mpr (Nat.two_pow_pos _)) (Nat.cast_pos.mpr proper)]
  norm_cast
  rw [mul_comm]

theorem cast_log2_bounds {value : Nat} (positive : 0 < value) :
    (2 : ℚ) ^ (value.log2 : ℤ) ≤ value ∧ (value : ℚ) < 2 ^ (value.log2 + 1 : ℤ) := by
  constructor
  · rw [zpow_natCast]
    exact_mod_cast Nat.log2_self_le positive.ne'
  · rw [← Nat.cast_add_one, zpow_natCast]
    exact_mod_cast Nat.lt_log2_self

/-- The order of a quotient is the exponent of the power of two below it. -/
theorem binaryOrder_spec {numerator denominator : Nat} (positive : 0 < numerator)
    (proper : 0 < denominator) :
    (2 : ℚ) ^ binaryOrder numerator denominator ≤ numerator / denominator ∧
      (numerator / denominator : ℚ) < 2 ^ (binaryOrder numerator denominator + 1) := by
  obtain ⟨numeratorLeast, numeratorLess⟩ := cast_log2_bounds positive
  obtain ⟨denominatorLeast, denominatorLess⟩ := cast_log2_bounds proper
  have powers (left right : ℤ) : (2 : ℚ) ^ left * 2 ^ right = 2 ^ (left + right) :=
    (zpow_add₀ two_ne_zero left right).symm
  have below : (2 : ℚ) ^ ((numerator.log2 : ℤ) - denominator.log2 - 1) ≤
      numerator / denominator := by
    rw [le_div_iff₀ (by positivity)]
    calc
      (2 : ℚ) ^ ((numerator.log2 : ℤ) - denominator.log2 - 1) * denominator
          ≤ 2 ^ ((numerator.log2 : ℤ) - denominator.log2 - 1) *
              2 ^ (denominator.log2 + 1 : ℤ) := by gcongr
      _ = 2 ^ (numerator.log2 : ℤ) := by
        rw [powers]
        congr 1
        ring
      _ ≤ numerator := numeratorLeast
  have above : (numerator / denominator : ℚ) <
      2 ^ ((numerator.log2 : ℤ) - denominator.log2 + 1) := by
    rw [div_lt_iff₀ (by positivity)]
    calc
      (numerator : ℚ) < 2 ^ (numerator.log2 + 1 : ℤ) := numeratorLess
      _ = 2 ^ ((numerator.log2 : ℤ) - denominator.log2 + 1) * 2 ^ (denominator.log2 : ℤ) := by
        rw [powers]
        congr 1
        ring
      _ ≤ 2 ^ ((numerator.log2 : ℤ) - denominator.log2 + 1) * denominator := by gcongr
  -- Lengths tell the order up to one, and the comparison tells which of both it is.
  unfold binaryOrder
  dsimp only
  split_ifs with reached
  · exact ⟨(two_zpow_le_div_iff proper _).mpr reached, above⟩
  · rw [sub_add_cancel]
    exact ⟨below, not_le.mp fun least => reached ((two_zpow_le_div_iff proper _).mp least)⟩

/-!
## Rounding to a natural number
-/

section Quotient

variable {numerator denominator bound : Nat}

theorem le_roundQuotient (proper : 0 < denominator)
    (least : (bound : ℚ) ≤ numerator / denominator) :
    bound ≤ roundQuotient numerator denominator := by
  have whole : bound ≤ numerator / denominator := by
    rw [le_div_iff₀ (by positivity)] at least
    exact (Nat.le_div_iff_mul_le proper).mpr (by exact_mod_cast least)
  unfold roundQuotient
  dsimp only
  split_ifs <;> omega

theorem roundQuotient_le (proper : 0 < denominator)
    (greatest : (numerator / denominator : ℚ) ≤ bound) :
    roundQuotient numerator denominator ≤ bound := by
  have most : numerator ≤ bound * denominator := by
    rw [div_le_iff₀ (by positivity)] at greatest
    exact_mod_cast greatest
  have whole : numerator / denominator ≤ bound := Nat.div_le_of_le_mul (by linarith)
  rcases Nat.lt_or_eq_of_le whole with less | same
  · unfold roundQuotient
    dsimp only
    split_ifs <;> omega
  · have nothingLeft : numerator % denominator = 0 := by
      have parts := Nat.div_add_mod' numerator denominator
      rw [same] at parts
      omega
    simp [roundQuotient, nothingLeft, proper, same]

/-- An even number is reached from half below it on. -/
theorem even_le_roundQuotient_iff (proper : 0 < denominator) (even : bound % 2 = 0) :
    bound ≤ roundQuotient numerator denominator ↔
      (bound - 1 / 2 : ℚ) ≤ numerator / denominator := by
  have whole : (bound - 1 / 2 : ℚ) ≤ numerator / denominator ↔
      2 * (bound * denominator) ≤ 2 * numerator + denominator := by
    rw [le_div_iff₀ (by positivity), ← Nat.cast_le (α := ℚ)]
    push_cast
    constructor <;> intro least <;> linarith
  have parts := Nat.div_add_mod' numerator denominator
  have remainder := Nat.mod_lt numerator proper
  rw [whole]
  unfold roundQuotient
  dsimp only
  rcases Nat.lt_trichotomy bound (numerator / denominator + 1) with less | next | more
  · have multiple := Nat.mul_le_mul_right denominator (Nat.le_of_lt_succ less)
    split_ifs <;> omega
  · -- The quotient is odd, so a tie goes up.
    rw [next, Nat.add_mul, Nat.one_mul]
    split_ifs <;> omega
  · have multiple := Nat.mul_le_mul_right denominator (Nat.succ_le_of_lt more)
    rw [Nat.succ_mul, Nat.add_mul, Nat.one_mul] at multiple
    split_ifs <;> omega

theorem cast_roundQuotient_le (proper : 0 < denominator) :
    (roundQuotient numerator denominator : ℚ) ≤ 2 * (numerator / denominator) := by
  have parts := Nat.div_add_mod' numerator denominator
  have natural : roundQuotient numerator denominator * denominator ≤ 2 * numerator := by
    unfold roundQuotient
    dsimp only
    split_ifs with below above
    · omega
    · rw [Nat.add_mul, Nat.one_mul]
      omega
    · have odd : numerator / denominator % 2 * denominator ≤ 1 * denominator :=
        Nat.mul_le_mul_right _ (Nat.le_of_lt_succ (Nat.mod_lt _ two_pos))
      rw [Nat.add_mul]
      omega
  rw [← mul_div_assoc, le_div_iff₀ (by positivity)]
  exact_mod_cast natural

end Quotient

/-!
## Rounding to a number
-/

theorem scaled_div (numerator denominator : Nat) (exponent : Int) :
    ((numerator * Nat.pow 2 (-exponent).toNat : ℕ) : ℚ) /
      (denominator * Nat.pow 2 exponent.toNat : ℕ) = numerator / denominator / 2 ^ exponent := by
  rw [two_zpow]
  push_cast
  field_simp

/-- A quotient is counted in units so small that it has 53 bits, but not in smaller ones than the
least. Rounding it to whole units may carry into one more bit. -/
structure IsRounded (quotient : ℚ) (exponent : Int) (rounded : Nat) : Prop where
  below : quotient < 2 ^ 53 * 2 ^ exponent
  full : exponent = -1074 ∨ 2 ^ 52 * 2 ^ exponent ≤ quotient ∧ Nat.pow 2 52 ≤ rounded
  most : rounded ≤ Nat.pow 2 53
  carries : Nat.pow 2 53 ≤ rounded ↔ (2 ^ 53 - 1 / 2) * 2 ^ exponent ≤ quotient
  close : rounded * (2 : ℚ) ^ exponent ≤ 2 * quotient

theorem isRounded {numerator denominator : Nat} (positive : 0 < numerator)
    (proper : 0 < denominator) {exponent : Int}
    (chosen : exponent = max (binaryOrder numerator denominator - 52) (-1074)) :
    IsRounded (numerator / denominator) exponent
      (roundQuotient (numerator * Nat.pow 2 (-exponent).toNat)
        (denominator * Nat.pow 2 exponent.toNat)) := by
  obtain ⟨least, greatest⟩ := binaryOrder_spec positive proper
  have scaled := scaled_div numerator denominator exponent
  have scaledProper : 0 < denominator * Nat.pow 2 exponent.toNat :=
    Nat.mul_pos proper (Nat.two_pow_pos _)
  have unit : (0 : ℚ) < 2 ^ exponent := by positivity
  have units (count : Nat) : (2 : ℚ) ^ count * 2 ^ exponent = 2 ^ (count + exponent) := by
    rw [zpow_add₀ two_ne_zero, zpow_natCast]
  have below : (numerator / denominator : ℚ) < 2 ^ 53 * 2 ^ exponent := by
    rw [units]
    exact greatest.trans_le (zpow_le_zpow_right₀ one_le_two (by push_cast; omega))
  constructor
  · exact below
  · by_cases lowest : exponent = -1074
    · exact .inl lowest
    · have reached : (2 : ℚ) ^ 52 * 2 ^ exponent ≤ numerator / denominator := by
        rw [units]
        exact le_trans (zpow_le_zpow_right₀ one_le_two (by push_cast; omega)) least
      refine .inr ⟨reached, le_roundQuotient scaledProper ?_⟩
      rwa [scaled, le_div_iff₀ unit, cast_two_pow]
  · apply roundQuotient_le scaledProper
    rw [scaled, div_le_iff₀ unit, cast_two_pow]
    exact below.le
  · rw [even_le_roundQuotient_iff scaledProper (by decide), scaled, le_div_iff₀ unit,
      cast_two_pow]
  · rw [← le_div_iff₀ unit, mul_div_assoc, ← scaled]
    exact cast_roundQuotient_le scaledProper

/-- What a positive quotient may round to. A finite number is at most twice as great, and what is
beyond the bound is infinite. -/
inductive RoundsTo (quotient : ℚ) (negative : Bool) : Binary64 → Prop where
  | finite {number : Finite} :
      quotient < overflow → number.magnitude ≤ 2 * quotient →
      RoundsTo quotient negative (.finite number)
  | infinite : overflow ≤ quotient → RoundsTo quotient negative (.infinite negative)

/-- The number with a significand and an exponent, or an infinity if there is no such number. -/
def assemble (negative : Bool) (significand : Nat) (exponent : Int) : Binary64 :=
  if canonical : IsCanonical significand exponent then
    .finite ⟨negative, significand, exponent, canonical⟩
  else .infinite negative

section Assemble

variable {quotient : ℚ} {exponent : Int} {rounded : Nat}

theorem roundsTo_assemble (negative : Bool) (canonical : IsCanonical rounded exponent)
    (less : quotient < overflow) (close : rounded * (2 : ℚ) ^ exponent ≤ 2 * quotient) :
    RoundsTo quotient negative (assemble negative rounded exponent) := by
  rw [assemble, dif_pos canonical]
  refine .finite less ?_
  rwa [Finite.magnitude_eq]

theorem roundsTo_assemble_of_lt (negative : Bool) (beyond : 971 < exponent)
    (least : overflow ≤ quotient) :
    RoundsTo quotient negative (assemble negative rounded exponent) := by
  rw [assemble, dif_neg fun canonical => absurd canonical.2.2.1 (Int.not_le.mpr beyond)]
  exact .infinite least

/-- A carry leaves one bit of the significand and goes on to the exponent. -/
theorem IsRounded.roundsTo_of_carry (rounding : IsRounded quotient exponent rounded)
    (negative : Bool) (lowest : -1074 ≤ exponent) (carry : rounded = Nat.pow 2 53) :
    RoundsTo quotient negative (assemble negative (Nat.pow 2 52) (exponent + 1)) := by
  have reached := rounding.carries.mp carry.ge
  by_cases room : exponent ≤ 970
  · apply roundsTo_assemble
    · exact ⟨by decide, by omega, by omega, .inl (Nat.le_refl _)⟩
    · have below := rounding.below
      have smaller : (2 : ℚ) ^ (exponent + 1) ≤ 2 ^ (971 : ℤ) := unit_mono (by omega)
      rw [zpow_add_one₀ two_ne_zero] at smaller
      unfold overflow
      generalize (2 : ℚ) ^ (971 : ℤ) = greatest at *
      linarith
    · have close := rounding.close
      rw [carry, cast_two_pow] at close
      rw [zpow_add_one₀ two_ne_zero, cast_two_pow]
      linarith
  · apply roundsTo_assemble_of_lt
    · omega
    · refine le_trans ?_ reached
      exact mul_le_mul_of_nonneg_left (unit_mono (by omega)) (by norm_num)

theorem IsRounded.roundsTo_of_no_carry (rounding : IsRounded quotient exponent rounded)
    (negative : Bool) (lowest : -1074 ≤ exponent) (carry : rounded ≠ Nat.pow 2 53) :
    RoundsTo quotient negative (assemble negative rounded exponent) := by
  have unreached : ¬ (2 ^ 53 - 1 / 2) * 2 ^ exponent ≤ quotient :=
    fun reached => carry (Nat.le_antisymm rounding.most (rounding.carries.mpr reached))
  by_cases room : exponent ≤ 971
  · apply roundsTo_assemble
    · refine ⟨Nat.lt_of_le_of_ne rounding.most carry, lowest, room, ?_⟩
      rcases rounding.full with least | ⟨_, full⟩
      · exact .inr least
      · exact .inl full
    · have smaller := unit_mono room
      unfold overflow
      generalize (2 : ℚ) ^ (971 : ℤ) = greatest at *
      linarith
    · exact rounding.close
  · apply roundsTo_assemble_of_lt
    · omega
    · rcases rounding.full with least | ⟨reached, _⟩
      · omega
      · have greater : (2 : ℚ) ^ (971 + 1 : ℤ) ≤ 2 ^ exponent := unit_mono (by omega)
        have unit : (0 : ℚ) < 2 ^ (971 : ℤ) := by positivity
        rw [zpow_add_one₀ two_ne_zero] at greater
        unfold overflow
        generalize (2 : ℚ) ^ (971 : ℤ) = greatest at *
        linarith

end Assemble

theorem ofQuotient_eq (negative : Bool) (numerator denominator : Nat) :
    let exponent := max (binaryOrder numerator denominator - 52) (-1074)
    let rounded := roundQuotient (numerator * Nat.pow 2 (-exponent).toNat)
      (denominator * Nat.pow 2 exponent.toNat)
    ofQuotient negative numerator denominator =
      if rounded = Nat.pow 2 53 then assemble negative (Nat.pow 2 52) (exponent + 1)
      else assemble negative rounded exponent := by
  intro exponent rounded
  unfold ofQuotient
  dsimp only
  by_cases carry : rounded = Nat.pow 2 53
  · rw [if_pos carry, if_pos carry]
    rfl
  · rw [if_neg carry, if_neg carry]
    rfl

theorem ofQuotient_roundsTo (negative : Bool) {numerator denominator : Nat}
    (positive : 0 < numerator) (proper : 0 < denominator) :
    RoundsTo (numerator / denominator) negative (ofQuotient negative numerator denominator) := by
  have rounding := isRounded positive proper rfl
  have lowest := le_max_right (binaryOrder numerator denominator - 52) (-1074)
  rw [ofQuotient_eq]
  split_ifs with carry
  · exact rounding.roundsTo_of_carry negative lowest carry
  · exact rounding.roundsTo_of_no_carry negative lowest carry

theorem abs_eq_natAbs_div (value : ℚ) : |value| = value.num.natAbs / value.den := by
  conv_lhs => rw [← value.num_div_den]
  rw [abs_div, Nat.abs_cast, Nat.cast_natAbs, Int.cast_abs]

theorem overflow_pos : 0 < overflow :=
  mul_pos (by norm_num) (by positivity)

theorem exists_ofRat_roundsTo (zeroNegative : Bool) (value : ℚ) :
    ∃ negative, RoundsTo |value| negative (ofRat zeroNegative value) := by
  by_cases nothing : value.num = 0
  · obtain rfl := Rat.num_eq_zero.mp nothing
    rw [abs_zero]
    refine ⟨zeroNegative, .finite overflow_pos ?_⟩
    rw [Finite.magnitude_eq]
    simp
  · rw [ofRat, if_neg nothing, abs_eq_natAbs_div]
    exact ⟨_, ofQuotient_roundsTo _ (Int.natAbs_pos.mpr nothing) value.den_pos⟩

/-!
## Finite numbers
-/

def IsFinite (number : Binary64) : Prop := ∃ finite, number = .finite finite

theorem not_isFinite_infinite (negative : Bool) : ¬ IsFinite (.infinite negative) := by
  rintro ⟨number, impossible⟩
  cases impossible

theorem not_isFinite_nan : ¬ IsFinite .nan := by
  rintro ⟨number, impossible⟩
  cases impossible

instance : DecidablePred IsFinite
  | .finite number => .isTrue ⟨number, rfl⟩
  | .infinite negative => .isFalse (not_isFinite_infinite negative)
  | .nan => .isFalse not_isFinite_nan

/-- A rational number rounds to a finite number exactly if it is less far from zero than the
bound. -/
theorem isFinite_ofRat_iff {zeroNegative : Bool} {value : ℚ} :
    IsFinite (ofRat zeroNegative value) ↔ |value| < overflow := by
  obtain ⟨negative, rounds⟩ := exists_ofRat_roundsTo zeroNegative value
  generalize ofRat zeroNegative value = result at rounds
  cases rounds with
  | finite less _ => exact iff_of_true ⟨_, rfl⟩ less
  | infinite beyond => exact iff_of_false (not_isFinite_infinite negative) beyond.not_gt

theorem exists_finite_of_lt (zeroNegative : Bool) {value : ℚ} (less : |value| < overflow) :
    ∃ number : Finite, ofRat zeroNegative value = .finite number ∧
      |number.value| ≤ 2 * |value| := by
  obtain ⟨negative, rounds⟩ := exists_ofRat_roundsTo zeroNegative value
  generalize ofRat zeroNegative value = result at rounds
  cases rounds with
  | @finite number _ close => exact ⟨number, rfl, number.abs_value.trans_le close⟩
  | infinite beyond => exact absurd less beyond.not_gt

/-- An integer is too large exactly if it rounds to an infinity. -/
theorem ofInt?_eq_none_iff {value : Int} :
    ofInt? value = none ↔ overflow ≤ |(value : ℚ)| := by
  obtain ⟨negative, rounds⟩ := exists_ofRat_roundsTo false (value : ℚ)
  unfold ofInt?
  generalize ofRat false (value : ℚ) = result at rounds
  cases rounds with
  | finite less _ => simp [less.not_ge]
  | infinite beyond => simp [beyond]

theorem ofInt?_ne_nan (value : Int) : ofInt? value ≠ some .nan := by
  obtain ⟨negative, rounds⟩ := exists_ofRat_roundsTo false (value : ℚ)
  unfold ofInt?
  generalize ofRat false (value : ℚ) = result at rounds
  cases rounds <;> simp

end MediaSearch.Binary64

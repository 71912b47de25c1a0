import MediaSearch.Binary64.Text
import MediaSearch.Proofs.Binary64.Rounding

/-!
# Values near a number

Every value that lies nearer to a number than to its neighbours rounds to it, and so does a value half
way between two numbers if the significand is even.
-/

set_option autoImplicit false

namespace MediaSearch.Binary64

theorem Finite.unit_eq (number : Finite) : number.unit = (2 : ℚ) ^ number.exponent := by
  rw [unit, Rat.mkRat_eq_div, two_zpow, Int.cast_natCast]

theorem Finite.unit_pos (number : Finite) : 0 < number.unit := by
  rw [unit_eq]
  positivity

theorem Finite.magnitude_eq_mul_unit (number : Finite) :
    number.magnitude = number.significand * number.unit := by
  rw [magnitude_eq, unit_eq]

theorem Finite.cast_significand_le (number : Finite) :
    (number.significand : ℚ) ≤ 2 ^ 53 - 1 := by
  have next : ((number.significand + 1 : ℕ) : ℚ) ≤ (Nat.pow 2 53 : ℕ) :=
    Nat.cast_le.mpr number.canonical.1
  rw [cast_two_pow, Nat.cast_add_one] at next
  linarith

/-- How far below a number values still belong to it. The neighbour below a power of two is twice as
near as the one above. -/
def Finite.margin (number : Finite) : ℚ :=
  if number.significand = Nat.pow 2 52 ∧ number.exponent ≠ -1074 then number.unit / 4
  else number.unit / 2

theorem Finite.margin_le (number : Finite) : number.margin ≤ number.unit / 2 := by
  have positive := number.unit_pos
  unfold margin
  split_ifs <;> linarith

theorem Finite.isNearest_iff {number : Finite} {value : ℚ} :
    number.isNearest value = true ↔
      (number.magnitude - number.margin ≤ value ∧ value ≤ number.magnitude + number.unit / 2) ∧
      (number.significand % 2 = 1 →
        number.magnitude - number.margin < value ∧ value < number.magnitude + number.unit / 2) := by
  have below : (if number.significand = Nat.pow 2 52 && number.exponent != -1074 then
      number.unit / 4 else number.unit / 2) = number.margin := by
    unfold margin
    congr 1
    simp
  unfold isNearest
  rw [below]
  by_cases even : number.significand % 2 = 0
  · simp [even]
  · have odd : number.significand % 2 = 1 := by omega
    rw [if_neg even, Bool.and_eq_true, decide_eq_true_eq, decide_eq_true_eq]
    exact ⟨fun inside => ⟨⟨inside.1.le, inside.2.le⟩, fun _ => inside⟩, fun inside => inside.2 odd⟩

/-!
## Rounding to a given number
-/

theorem binaryOrder_eq {numerator denominator : Nat} (positive : 0 < numerator)
    (proper : 0 < denominator) {order : Int} (least : (2 : ℚ) ^ order ≤ numerator / denominator)
    (greatest : (numerator / denominator : ℚ) < 2 ^ (order + 1)) :
    binaryOrder numerator denominator = order := by
  obtain ⟨foundLeast, foundGreatest⟩ := binaryOrder_spec positive proper
  have below := (zpow_lt_zpow_iff_right₀ one_lt_two).mp (least.trans_lt foundGreatest)
  have above := (zpow_lt_zpow_iff_right₀ one_lt_two).mp (foundLeast.trans_lt greatest)
  omega

theorem roundQuotient_eq {numerator denominator whole : Nat} (proper : 0 < denominator)
    (least : (whole - 1 / 2 : ℚ) ≤ numerator / denominator)
    (most : (numerator / denominator : ℚ) ≤ whole + 1 / 2)
    (inside : whole % 2 = 1 → (whole - 1 / 2 : ℚ) < numerator / denominator ∧
      (numerator / denominator : ℚ) < whole + 1 / 2) :
    roundQuotient numerator denominator = whole := by
  have positive : (0 : ℚ) < denominator := Nat.cast_pos.mpr proper
  have low : 2 * (whole * denominator) ≤ 2 * numerator + denominator := by
    rw [le_div_iff₀ positive] at least
    rw [← Nat.cast_le (α := ℚ)]
    push_cast
    linarith
  have high : 2 * numerator ≤ 2 * (whole * denominator) + denominator := by
    rw [div_le_iff₀ positive] at most
    rw [← Nat.cast_le (α := ℚ)]
    push_cast
    linarith
  have strict : whole % 2 = 1 → 2 * (whole * denominator) < 2 * numerator + denominator ∧
      2 * numerator < 2 * (whole * denominator) + denominator := by
    intro odd
    obtain ⟨above, below⟩ := inside odd
    rw [lt_div_iff₀ positive] at above
    rw [div_lt_iff₀ positive] at below
    constructor
    · rw [← Nat.cast_lt (α := ℚ)]
      push_cast
      linarith
    · rw [← Nat.cast_lt (α := ℚ)]
      push_cast
      linarith
  have parts := Nat.div_add_mod' numerator denominator
  have remainder := Nat.mod_lt numerator proper
  unfold roundQuotient
  dsimp only
  -- The whole number is the quotient or the next one, whichever the remainder is nearer to.
  rcases Nat.lt_trichotomy whole (numerator / denominator) with less | rfl | more
  · have multiple := Nat.mul_le_mul_right denominator (Nat.succ_le_of_lt less)
    rw [Nat.succ_mul] at multiple
    split_ifs <;> omega
  · split_ifs <;> omega
  · rcases Nat.lt_or_eq_of_le (Nat.succ_le_of_lt more) with beyond | next
    · have multiple := Nat.mul_le_mul_right denominator (Nat.succ_le_of_lt beyond)
      rw [Nat.succ_mul, Nat.succ_mul] at multiple
      split_ifs <;> omega
    · have product : whole * denominator = numerator / denominator * denominator + denominator := by
        rw [← next, Nat.succ_mul]
      rw [product] at low high strict
      split_ifs <;> omega

section Quotient

variable {numerator denominator : Nat} (positive : 0 < numerator) (proper : 0 < denominator)
  {number : Finite} (negative : Bool)
include positive proper

/-- A value in the range of a number's units is counted in them. -/
theorem ofQuotient_of_near (near : number.isNearest (numerator / denominator) = true)
    (full : number.exponent = -1074 ∨
      2 ^ 52 * number.unit ≤ (numerator / denominator : ℚ)) :
    ofQuotient negative numerator denominator = .finite { number with negative } := by
  obtain ⟨⟨low, high⟩, strict⟩ := Finite.isNearest_iff.mp near
  have unit := number.unit_pos
  have margin := number.margin_le
  have greatest := number.cast_significand_le
  rw [Finite.magnitude_eq_mul_unit] at low high strict
  have scaled := scaled_div numerator denominator number.exponent
  rw [← Finite.unit_eq] at scaled
  have below : (numerator / denominator : ℚ) < 2 ^ 53 * number.unit := by
    have product := mul_le_mul_of_nonneg_right greatest unit.le
    linarith
  have chosen : max (binaryOrder numerator denominator - 52) (-1074) = number.exponent := by
    obtain ⟨foundLeast, foundGreatest⟩ := binaryOrder_spec positive proper
    have lowest := number.canonical.2.1
    have orderLess : binaryOrder numerator denominator < 53 + number.exponent := by
      apply (zpow_lt_zpow_iff_right₀ (one_lt_two (α := ℚ))).mp
      rw [zpow_add₀ two_ne_zero, ← Finite.unit_eq]
      exact foundLeast.trans_lt below
    rcases full with least | reached
    · omega
    · have orderLeast : 52 + number.exponent < binaryOrder numerator denominator + 1 := by
        apply (zpow_lt_zpow_iff_right₀ (one_lt_two (α := ℚ))).mp
        rw [zpow_add₀ two_ne_zero, ← Finite.unit_eq]
        exact lt_of_le_of_lt reached foundGreatest
      omega
  have scaledProper : 0 < denominator * Nat.pow 2 number.exponent.toNat :=
    Nat.mul_pos proper (Nat.two_pow_pos _)
  have rounded : roundQuotient (numerator * Nat.pow 2 (-number.exponent).toNat)
      (denominator * Nat.pow 2 number.exponent.toNat) = number.significand := by
    apply roundQuotient_eq scaledProper
    · rw [scaled, le_div_iff₀ unit]
      linarith
    · rw [scaled, div_le_iff₀ unit]
      linarith
    · intro odd
      obtain ⟨above, below⟩ := strict odd
      rw [scaled, lt_div_iff₀ unit, div_lt_iff₀ unit]
      constructor <;> linarith
  rw [ofQuotient_eq, chosen, rounded, if_neg number.canonical.1.ne, assemble,
    dif_pos number.canonical]

/-- A value just below a power of two is counted in smaller units and carries over. -/
theorem ofQuotient_of_near_below (near : number.isNearest (numerator / denominator) = true)
    (room : number.exponent ≠ -1074)
    (short : (numerator / denominator : ℚ) < 2 ^ 52 * number.unit) :
    ofQuotient negative numerator denominator = .finite { number with negative } := by
  obtain ⟨⟨low, -⟩, -⟩ := Finite.isNearest_iff.mp near
  have unit := number.unit_pos
  have lowest := number.canonical.2.1
  have full : Nat.pow 2 52 ≤ number.significand := number.canonical.2.2.2.resolve_right room
  rw [Finite.magnitude_eq_mul_unit] at low
  have power : number.significand = Nat.pow 2 52 := by
    by_contra different
    have more : ((Nat.pow 2 52 + 1 : ℕ) : ℚ) ≤ number.significand :=
      Nat.cast_le.mpr (Nat.lt_of_le_of_ne full (Ne.symm different))
    rw [Nat.cast_add_one, cast_two_pow] at more
    have product := mul_le_mul_of_nonneg_right more unit.le
    have margin := number.margin_le
    linarith
  have half : (2 : ℚ) ^ (number.exponent - 1) = number.unit / 2 := by
    rw [Finite.unit_eq, zpow_sub_one₀ two_ne_zero]
    ring
  have scaled := scaled_div numerator denominator (number.exponent - 1)
  rw [half] at scaled
  have reached : (2 ^ 53 - 1 / 2) * (number.unit / 2) ≤ (numerator / denominator : ℚ) := by
    rw [Finite.margin, if_pos ⟨power, room⟩, power, cast_two_pow] at low
    linarith
  have order : binaryOrder numerator denominator = 52 + (number.exponent - 1) := by
    apply binaryOrder_eq positive proper
    · rw [zpow_add₀ two_ne_zero, half]
      norm_num at reached ⊢
      linarith
    · rw [add_right_comm, zpow_add₀ two_ne_zero, half]
      norm_num at short ⊢
      linarith
  have chosen : max (binaryOrder numerator denominator - 52) (-1074) = number.exponent - 1 := by
    omega
  have scaledProper : 0 < denominator * Nat.pow 2 (number.exponent - 1).toNat :=
    Nat.mul_pos proper (Nat.two_pow_pos _)
  have carried : roundQuotient (numerator * Nat.pow 2 (-(number.exponent - 1)).toNat)
      (denominator * Nat.pow 2 (number.exponent - 1).toNat) = Nat.pow 2 53 := by
    have unitHalf : 0 < number.unit / 2 := by positivity
    apply roundQuotient_eq scaledProper
    · rw [scaled, le_div_iff₀ unitHalf, cast_two_pow]
      exact reached
    · rw [scaled, div_le_iff₀ unitHalf, cast_two_pow]
      linarith
    · intro odd
      exact absurd odd (by decide)
  have canonical := number.canonical
  rw [power] at canonical
  rw [ofQuotient_eq, chosen, carried, if_pos rfl, assemble, Int.sub_add_cancel,
    dif_pos canonical]
  simp only [power]

theorem ofQuotient_of_isNearest (near : number.isNearest (numerator / denominator) = true) :
    ofQuotient negative numerator denominator = .finite { number with negative } := by
  by_cases lowest : number.exponent = -1074
  · exact ofQuotient_of_near positive proper negative near (.inl lowest)
  · by_cases full : 2 ^ 52 * number.unit ≤ (numerator / denominator : ℚ)
    · exact ofQuotient_of_near positive proper negative near (.inr full)
    · exact ofQuotient_of_near_below positive proper negative near lowest (not_le.mp full)

end Quotient

/-- A value of a number's sign that is nearest to it rounds to it. -/
theorem ofRat_of_isNearest {number : Finite} (zeroNegative : Bool) {value : ℚ}
    (positive : 0 < value) (near : number.isNearest value = true) :
    ofRat zeroNegative (if number.negative then -value else value) = .finite number := by
  obtain ⟨negative, significand, exponent, canonical⟩ := number
  have numerator : 0 < value.num := Rat.num_pos.mpr positive
  have quotient : value = value.num.natAbs / value.den := by
    rw [← abs_eq_natAbs_div, abs_of_pos positive]
  rw [quotient] at near
  have rounds (sign : Bool) := ofQuotient_of_isNearest (Int.natAbs_pos.mpr numerator.ne')
    value.den_pos sign near
  unfold ofRat
  cases negative with
  | false =>
      rw [if_neg Bool.false_ne_true, if_neg numerator.ne', decide_eq_false numerator.le.not_gt]
      exact rounds false
  | true =>
      have below : (-value).num < 0 := by
        rw [Rat.num_neg_eq_neg_num]
        omega
      rw [if_pos rfl, if_neg below.ne, decide_eq_true below, Rat.num_neg_eq_neg_num,
        Rat.den_neg_eq_den, Int.natAbs_neg]
      exact rounds true

end MediaSearch.Binary64

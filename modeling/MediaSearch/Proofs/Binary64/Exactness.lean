import MediaSearch.Proofs.Binary64.Rounding

/-!
# Exact integers

Integers of at most 53 bits are numbers themselves, so that rounding them changes nothing.
-/

set_option autoImplicit false

namespace MediaSearch.Binary64

theorem roundQuotient_of_eq {numerator denominator whole : Nat} (proper : 0 < denominator)
    (exact : (numerator / denominator : ℚ) = whole) :
    roundQuotient numerator denominator = whole :=
  Nat.le_antisymm (roundQuotient_le proper exact.le) (le_roundQuotient proper exact.ge)

theorem binaryOrder_lt {whole : Nat} (positive : 0 < whole) (few : whole < Nat.pow 2 53) :
    binaryOrder whole 1 < 53 := by
  obtain ⟨least, _⟩ := binaryOrder_spec positive one_pos
  have less : (2 : ℚ) ^ binaryOrder whole 1 < 2 ^ (53 : ℤ) := by
    apply least.trans_lt
    rw [Nat.cast_one, div_one]
    exact_mod_cast few
  exact (zpow_lt_zpow_iff_right₀ one_lt_two).mp less

theorem exists_ofQuotient_eq (negative : Bool) {whole : Nat} (positive : 0 < whole)
    (few : whole < Nat.pow 2 53) :
    ∃ number : Finite, ofQuotient negative whole 1 = .finite number ∧
      number.negative = negative ∧ number.magnitude = whole := by
  have order := binaryOrder_lt positive few
  have rounding := isRounded positive one_pos rfl
  rw [ofQuotient_eq]
  -- The units are fractions of one, and the number is a multiple of them.
  obtain ⟨places, chosen⟩ : ∃ places : Nat,
      max (binaryOrder whole 1 - 52) (-1074) = -(places : Int) :=
    ⟨(-max (binaryOrder whole 1 - 52) (-1074)).toNat, by omega⟩
  have scale : (-(places : Int)).toNat = 0 := by omega
  rw [chosen] at rounding ⊢
  rw [neg_neg, Int.toNat_natCast, scale] at rounding ⊢
  have exact : roundQuotient (whole * Nat.pow 2 places) (1 * Nat.pow 2 0) =
      whole * Nat.pow 2 places := by
    apply roundQuotient_of_eq (by decide)
    simp
  rw [exact] at rounding ⊢
  have below : whole * Nat.pow 2 places < Nat.pow 2 53 := by
    have less := rounding.below
    rw [Nat.cast_one, div_one, zpow_neg, zpow_natCast, ← div_eq_mul_inv,
      lt_div_iff₀ (by positivity)] at less
    exact_mod_cast less
  have canonical : IsCanonical (whole * Nat.pow 2 places) (-(places : Int)) := by
    refine ⟨below, by omega, by omega, ?_⟩
    rcases rounding.full with least | ⟨_, full⟩
    · exact .inr least
    · exact .inl full
  rw [if_neg below.ne, assemble, dif_pos canonical]
  refine ⟨_, rfl, rfl, ?_⟩
  rw [Finite.magnitude_eq, zpow_neg, zpow_natCast, Nat.cast_mul, cast_two_pow]
  field_simp

/-- An integer of at most 53 bits is kept as it is. -/
theorem exists_ofRat_eq_int (zeroNegative : Bool) {whole : Int}
    (few : whole.natAbs < Nat.pow 2 53) :
    ∃ number : Finite, ofRat zeroNegative whole = .finite number ∧ number.value = whole := by
  unfold ofRat
  rw [Rat.num_intCast, Rat.den_intCast]
  by_cases nothing : whole = 0
  · rw [if_pos nothing, nothing]
    refine ⟨_, rfl, ?_⟩
    rw [Finite.value, Finite.magnitude_eq]
    simp
  · rw [if_neg nothing]
    obtain ⟨number, rounded, sign, magnitude⟩ :=
      exists_ofQuotient_eq (whole < 0) (Int.natAbs_pos.mpr nothing) few
    refine ⟨number, rounded, ?_⟩
    rw [Finite.value, sign, magnitude, Nat.cast_natAbs]
    by_cases below : whole < 0
    · rw [if_pos (decide_eq_true below), abs_of_neg below, Int.cast_neg, neg_neg]
    · rw [if_neg (by simpa using below), abs_of_nonneg (not_lt.mp below)]

theorem truncateRat_intCast (whole : Int) : truncateRat whole = whole := by
  rw [truncateRat, Rat.num_intCast, Rat.den_intCast, Nat.cast_one, Int.tdiv_one]

end MediaSearch.Binary64

import MediaSearch.Proofs.Binary64.Layout
import MediaSearch.Proofs.Binary64.Shortest
import MediaSearch.Proofs.Json.Grammar
import Mathlib.Data.List.TakeWhile

/-!
# Written numbers are JSON

Integers and finite floating point numbers are written as numbers of JSON, and denote themselves.
-/

set_option autoImplicit false

namespace MediaSearch.Json

open Binary64 (Finite)

/-!
## Digits
-/

theorem head?_digits_ne_zero {value : Nat} (positive : 0 < value) :
    (Integer.digits value).head? ≠ some '0' := by
  induction value using Nat.strongRecOn with
  | ind value ih =>
      unfold Integer.digits at ih ⊢
      rcases Nat.lt_or_ge value 10 with small | large
      · rw [Nat.toDigits_of_lt_base small, List.head?_cons, ne_eq, Option.some.injEq]
        have other : ∀ digit < 10, 0 < digit → Nat.digitChar digit ≠ '0' := by decide
        exact other value small positive
      · rw [Nat.toDigits_of_base_le (by decide) large, List.head?_append_of_ne_nil _ Nat.toDigits_ne_nil]
        exact ih (value / 10) (Nat.div_lt_self positive (by decide))
          (Nat.div_pos large (by decide))

theorem isDigits_digits (value : Nat) : IsDigits (Integer.digits value) :=
  ⟨Nat.toDigits_ne_nil, fun _ => Integer.isDigit_of_mem_digits⟩

theorem isWhole_digits (value : Nat) : IsWhole (Integer.digits value) := by
  refine ⟨isDigits_digits value, fun zero => ?_⟩
  rcases Nat.eq_zero_or_pos value with rfl | positive
  · rfl
  · exact absurd zero (head?_digits_ne_zero positive)

theorem digitsValue_digits (value : Nat) : digitsValue (Integer.digits value) = value :=
  Integer.ofDigitChars_digits value

theorem numeral_characters (value : Int) : Numeral (Integer.characters value) (.int value) := by
  cases value with
  | ofNat value =>
      have numeral := Numeral.integer false (isWhole_digits value)
      rw [digitsValue_digits] at numeral
      exact numeral
  | negSucc value =>
      have numeral := Numeral.integer true (isWhole_digits (value + 1))
      rw [digitsValue_digits] at numeral
      exact numeral

theorem digitsValue_append (front back : List Char) :
    digitsValue (front ++ back) = 10 ^ back.length * digitsValue front + digitsValue back := by
  unfold digitsValue
  rw [Nat.ofDigitChars_append, Nat.ofDigitChars_eq_ofDigitChars_zero]

theorem digitsValue_replicate (count : Nat) : digitsValue (List.replicate count '0') = 0 := by
  unfold digitsValue
  rw [Nat.ofDigitChars_replicate_zero, Nat.mul_zero]

theorem digitsValue_zeros_append (count : Nat) (digits : List Char) :
    digitsValue (List.replicate count '0' ++ digits) = digitsValue digits := by
  rw [digitsValue_append, digitsValue_replicate, Nat.mul_zero, Nat.zero_add]

theorem digitsValue_append_zeros (digits : List Char) (count : Nat) :
    digitsValue (digits ++ List.replicate count '0') = 10 ^ count * digitsValue digits := by
  rw [digitsValue_append, digitsValue_replicate, List.length_replicate, Nat.add_zero]

theorem isDigits_zeros_append (count : Nat) {digits : List Char} (isDigits : IsDigits digits) :
    IsDigits (List.replicate count '0' ++ digits) := by
  refine ⟨List.append_ne_nil_of_right_ne_nil _ isDigits.1, List.forall_mem_append.mpr ⟨?_, isDigits.2⟩⟩
  intro character member
  rw [List.eq_of_mem_replicate member]
  rfl

/-- Digits are the significant ones with zeros behind them, unless they are all zeros. -/
theorem exists_significantDigits (digits : List Char) (positive : digitsValue digits ≠ 0) :
    ∃ zeros, digits = Binary64.significantDigits digits ++ List.replicate zeros '0' := by
  have split := List.takeWhile_append_dropWhile (p := (· == '0')) (l := digits.reverse)
  have all : ∀ character ∈ digits.reverse.takeWhile (· == '0'), character = '0' := by
    intro character member
    have zero : (character == '0') = true := List.mem_takeWhile_imp (p := (· == '0')) member
    exact beq_iff_eq.mp zero
  have trailing : digits = Text.dropEndWhile (· == '0') digits ++
      List.replicate (digits.reverse.takeWhile (· == '0')).length '0' := by
    rw [Text.dropEndWhile, ← List.reverse_replicate, ← List.eq_replicate_of_mem all,
      ← List.reverse_append, split, List.reverse_reverse]
  refine ⟨(digits.reverse.takeWhile (· == '0')).length, ?_⟩
  unfold Binary64.significantDigits
  split
  · rename_i noFront
    rw [noFront, List.nil_append] at trailing
    rw [trailing, digitsValue_replicate] at positive
    exact absurd rfl positive
  · exact trailing

/-!
## Layouts
-/

/-- The text is a number without a sign. What its digits say is a multiple of a power of ten. -/
def Spells (text : List Char) (digits : Nat) (scale : Int) : Prop :=
  ∃ whole fraction behind power exponent, text = whole ++ fraction ++ power ∧ IsWhole whole ∧
    Fraction fraction behind ∧ Power power exponent ∧ fraction ++ power ≠ [] ∧
    (digitsValue (whole ++ behind) : ℚ) * 10 ^ (exponent - behind.length) = digits * 10 ^ scale

section Layout

variable {digits : List Char} (isDigits : IsDigits digits) (noZero : digits.head? ≠ some '0')
include isDigits

theorem spells_positional_below {order : Int} (below : order ≤ 0) :
    Spells (Binary64.positional digits order) (digitsValue digits) (order - digits.length) := by
  refine ⟨['0'], '.' :: (List.replicate (-order).toNat '0' ++ digits), _, [], 0, ?_, ?_,
    .point (isDigits_zeros_append _ isDigits), .none, List.cons_ne_nil _ _, ?_⟩
  · rw [Binary64.positional, if_pos below, List.append_nil]
    rfl
  · exact ⟨⟨List.cons_ne_nil _ _, List.forall_mem_singleton.mpr rfl⟩, fun _ => rfl⟩
  · have zeros : ['0'] ++ (List.replicate (-order).toNat '0' ++ digits) =
        List.replicate ((-order).toNat + 1) '0' ++ digits := by
      rw [List.replicate_succ]
      rfl
    rw [zeros, digitsValue_zeros_append, List.length_append, List.length_replicate]
    congr 2
    omega

include noZero

theorem isWhole_of_prefix {front back zeros : List Char} (split : digits = front ++ back)
    (nonempty : front ≠ []) (allZeros : ∀ character ∈ zeros, character = '0') :
    IsWhole (front ++ zeros) := by
  refine ⟨⟨List.append_ne_nil_of_left_ne_nil nonempty _, List.forall_mem_append.mpr ⟨?_, ?_⟩⟩, ?_⟩
  · exact fun character member => isDigits.2 character (split ▸ List.mem_append_left _ member)
  · intro character member
    rw [allZeros character member]
    rfl
  · intro zero
    rw [split, List.head?_append_of_ne_nil _ nonempty] at noZero
    rw [List.head?_append_of_ne_nil _ nonempty] at zero
    exact absurd zero noZero

theorem spells_positional_above {order : Int} (above : 0 < order) :
    Spells (Binary64.positional digits order) (digitsValue digits) (order - digits.length) := by
  obtain ⟨places, rfl⟩ := Int.eq_ofNat_of_zero_le above.le
  have shifted : 0 < places := by omega
  have laid : Binary64.positional digits places = digits.take places ++
      List.replicate (places - (digits.take places).length) '0' ++
        '.' :: (if (digits.drop places).isEmpty then ['0'] else digits.drop places) := by
    rw [Binary64.positional, if_neg above.not_ge]
    rfl
  have taken : digits.take places ≠ [] := by
    rw [ne_eq, List.take_eq_nil_iff]
    exact fun empty => empty.elim (by omega) isDigits.1
  have whole : IsWhole (digits.take places ++
      List.replicate (places - (digits.take places).length) '0') :=
    isWhole_of_prefix isDigits noZero (List.take_append_drop places digits).symm taken
      (fun _ member => List.eq_of_mem_replicate member)
  rcases Nat.lt_or_ge places digits.length with inside | beyond
  · -- The point stands between two digits.
    have dropped : digits.drop places ≠ [] := by
      rw [ne_eq, List.drop_eq_nil_iff]
      omega
    have filled : places - (digits.take places).length = 0 := by
      rw [List.length_take]
      omega
    rw [filled, List.replicate_zero, List.append_nil] at whole
    rw [filled, List.replicate_zero, List.append_nil, if_neg (by simpa using dropped)] at laid
    refine ⟨_, _, _, [], 0, by rw [laid, List.append_nil], whole,
      .point ⟨dropped, fun _ member => isDigits.2 _ (List.mem_of_mem_drop member)⟩, .none,
      List.cons_ne_nil _ _, ?_⟩
    rw [List.take_append_drop, List.length_drop]
    congr 2
    omega
  · -- The digits end before the point.
    rw [List.drop_eq_nil_of_le beyond, List.take_of_length_le beyond] at laid
    rw [List.take_of_length_le beyond] at whole
    refine ⟨_, ['.', '0'], ['0'], [], 0, by rw [laid, List.append_nil]; rfl, whole,
      .point ⟨List.cons_ne_nil _ _, List.forall_mem_singleton.mpr rfl⟩, .none,
      List.cons_ne_nil _ _, ?_⟩
    have zeros : digits ++ List.replicate (places - digits.length) '0' ++ ['0'] =
        digits ++ List.replicate (places - digits.length + 1) '0' := by
      rw [List.replicate_succ', List.append_assoc]
    rw [zeros, digitsValue_append_zeros, Nat.cast_mul, mul_comm, ← mul_assoc, mul_comm]
    congr 1
    rw [Nat.cast_pow, Nat.cast_ofNat, ← zpow_natCast, ← zpow_add₀ (by norm_num)]
    congr 1
    simp
    omega


end Layout

theorem isDigits_paddedDigits (width value : Nat) : IsDigits (Integer.paddedDigits width value) :=
  isDigits_zeros_append _ (isDigits_digits value)

theorem digitsValue_paddedDigits (width value : Nat) :
    digitsValue (Integer.paddedDigits width value) = value := by
  rw [Integer.paddedDigits, digitsValue_zeros_append, digitsValue_digits]

theorem power_of_exponent (exponent : Int) :
    Power ('e' :: (if exponent < 0 then '-' else '+') ::
      Integer.paddedDigits 2 exponent.natAbs) exponent := by
  have isDigits := isDigits_paddedDigits 2 exponent.natAbs
  have valued := digitsValue_paddedDigits 2 exponent.natAbs
  split_ifs with below
  · have power := Power.minus (.inl rfl) isDigits
    rwa [valued, Int.natCast_natAbs, abs_of_neg below, neg_neg] at power
  · have power := Power.plus (.inl rfl) isDigits
    rwa [valued, Int.natCast_natAbs, abs_of_nonneg (Int.not_lt.mp below)] at power

theorem isWhole_digit {digit : Char} (isDigit : digit.isDigit = true) : IsWhole [digit] := by
  refine ⟨⟨List.cons_ne_nil _ _, List.forall_mem_singleton.mpr isDigit⟩, fun zero => ?_⟩
  rw [Option.some.inj zero]

theorem spells_scientific {digits : List Char} (isDigits : IsDigits digits) (order : Int) :
    Spells (Binary64.scientific digits (order - 1)) (digitsValue digits)
      (order - digits.length) := by
  have power := power_of_exponent (order - 1)
  obtain ⟨nonempty, all⟩ := isDigits
  cases digits with
  | nil => exact absurd rfl nonempty
  | cons first rest =>
      obtain ⟨isDigit, others⟩ := List.forall_mem_cons.mp all
      cases rest with
      | nil =>
          refine ⟨[first], [], [], _, order - 1, rfl, isWhole_digit isDigit, .none, power,
            List.cons_ne_nil _ _, ?_⟩
          rw [List.append_nil, List.length_nil, List.length_singleton, Nat.cast_zero, sub_zero,
            Nat.cast_one]
      | cons second rest =>
          refine ⟨[first], '.' :: second :: rest, second :: rest, _, order - 1, rfl,
            isWhole_digit isDigit, .point ⟨List.cons_ne_nil _ _, others⟩, power,
            List.cons_ne_nil _ _, ?_⟩
          rw [List.singleton_append, List.length_cons (a := first)]
          congr 2
          omega

/-- Zeros behind the significant digits count as much as the scale makes up for. -/
theorem scale_zeros {significant value zeros places total : Nat}
    (valued : 10 ^ zeros * significant = value) (length : total = places + zeros) (scale : Int) :
    (significant : ℚ) * 10 ^ (total + scale - places) = value * 10 ^ scale := by
  have order : (total + scale - places : Int) = zeros + scale := by omega
  rw [order, zpow_add₀ (by norm_num), zpow_natCast, ← valued]
  push_cast
  ring

theorem spells_characters {number : Finite} (positive : 0 < number.significand)
    (layout : Binary64.Layout) :
    Spells (number.characters layout) number.shortest.1 number.shortest.2 := by
  obtain ⟨significant, -⟩ := Finite.isWritten_shortest positive
  obtain ⟨zeros, split⟩ := exists_significantDigits (Integer.digits number.shortest.1)
    (by rw [digitsValue_digits]; exact significant.ne')
  have isDigits : IsDigits (Binary64.significantDigits (Integer.digits number.shortest.1)) :=
    ⟨Binary64.significantDigits_ne_nil _, Binary64.isDigit_of_mem_significantDigits
      fun _ => Integer.isDigit_of_mem_digits⟩
  have noZero : (Binary64.significantDigits (Integer.digits number.shortest.1)).head? ≠
      Option.some '0' := by
    have head := head?_digits_ne_zero significant
    rwa [split, List.head?_append_of_ne_nil _ isDigits.1] at head
  have valued := digitsValue_digits number.shortest.1
  rw [split, digitsValue_append_zeros] at valued
  have length := congrArg List.length split
  rw [List.length_append, List.length_replicate] at length
  have same {text : List Char} (spells : Spells text
      (digitsValue (Binary64.significantDigits (Integer.digits number.shortest.1)))
      ((Integer.digits number.shortest.1).length + number.shortest.2 -
        (Binary64.significantDigits (Integer.digits number.shortest.1)).length)) :
      Spells text number.shortest.1 number.shortest.2 := by
    obtain ⟨whole, fraction, behind, power, exponent, written, isWhole, isFraction, isPower, more,
      equal⟩ := spells
    refine ⟨whole, fraction, behind, power, exponent, written, isWhole, isFraction, isPower, more, ?_⟩
    rw [equal, scale_zeros valued length]
  unfold Finite.characters
  rw [if_neg positive.ne']
  dsimp only
  split_ifs
  · apply same
    rcases lt_or_ge 0 (((Integer.digits number.shortest.1).length : Int) + number.shortest.2) with
      above | below
    · exact spells_positional_above isDigits noZero above
    · exact spells_positional_below isDigits below
  · exact same (spells_scientific isDigits _)

/-- A finite number is written as a number that denotes it. -/
theorem numeral_finite (number : Finite) (layout : Binary64.Layout) :
    Numeral (signText number.negative ++ number.characters layout) (.real (.finite number)) := by
  rcases Nat.eq_zero_or_pos number.significand with zero | positive
  · have isWhole : IsWhole ['0'] := isWhole_digit rfl
    have numeral := Numeral.real number.negative isWhole (.point isWhole.1) .none
      (List.cons_ne_nil _ _)
    have nothing : (digitsValue (['0'] ++ ['0']) : ℚ) = 0 := rfl
    have written : number.characters layout = ['0', '.', '0'] := if_pos zero
    have rounded : Binary64.ofRat number.negative (signed number.negative 0) = .finite number := by
      obtain ⟨negative, significand, exponent, canonical⟩ := number
      obtain rfl : significand = 0 := zero
      obtain rfl : exponent = -1074 := canonical.2.2.2.resolve_left (by decide)
      cases negative <;> rfl
    rw [nothing, zero_mul, rounded] at numeral
    rw [written]
    simpa using numeral
  · obtain ⟨whole, fraction, behind, power, exponent, written, isWhole, isFraction, isPower, more,
      equal⟩ := spells_characters positive layout
    obtain ⟨significant, nearest⟩ := Finite.isWritten_shortest positive
    have numeral := Numeral.real number.negative isWhole isFraction isPower more
    have valuePositive : (0 : ℚ) < number.shortest.1 * 10 ^ number.shortest.2 :=
      mul_pos (Nat.cast_pos.mpr significant) (Binary64.ten_zpow_pos _)
    rw [equal, signed, Binary64.ofRat_of_isNearest number.negative valuePositive nearest] at numeral
    rwa [written, ← List.append_assoc, ← List.append_assoc]

end MediaSearch.Json

import MediaSearch.Moment
import Mathlib.Algebra.Order.Group.Abs
import Mathlib.Algebra.Order.Ring.Int
import Mathlib.Tactic.NormNum
import Mathlib.Tactic.Ring
import Mathlib.Tactic.SplitIfs

/-!
# The range of moments

Moments lie in the years 1 to 9999. This bounds the seconds of Unix time that are moments, and the
Unix time of every moment.
-/

set_option autoImplicit false

namespace MediaSearch

namespace Calendar

/-- The years of a span of 400 that are over on a day of it. -/
def yearsInCycle (day : Nat) : Nat :=
  let centuries := min (day / 36524) 3
  let inCentury := day - centuries * 36524
  100 * centuries + 4 * (inCentury / 1461) + min (inCentury % 1461 / 365) 3

theorem dateOf_year (number : Int) :
    (dateOf number).year =
      400 * (number / 146097) + yearsInCycle (number % 146097).toNat + 1 := by
  have year : (dateOf number).year = 400 * (number / 146097) +
      100 * (min ((number % 146097).toNat / 36524) 3 : Nat) +
      4 * (((number % 146097).toNat - min ((number % 146097).toNat / 36524) 3 * 36524) / 1461 : Nat)
      + (min (((number % 146097).toNat - min ((number % 146097).toNat / 36524) 3 * 36524) % 1461
        / 365) 3 : Nat) + 1 := rfl
  rw [year, yearsInCycle]
  push_cast
  ring

/-- The last year of a span begins 366 days before its end. -/
theorem yearsInCycle_spec {day : Nat} (within : day < 146097) :
    yearsInCycle day ≤ 399 ∧ (yearsInCycle day = 399 ↔ 145731 ≤ day) := by
  unfold yearsInCycle
  dsimp only
  generalize centuries_eq : min (day / 36524) 3 = centuries
  have started : centuries ≤ 3 ∧ centuries * 36524 ≤ day ∧ day ≤ centuries * 36524 + 36524 := by
    omega
  obtain ⟨inCentury, day_eq⟩ := Nat.exists_eq_add_of_le started.2.1
  have inCentury_le : inCentury ≤ 36524 := by omega
  rw [show day - centuries * 36524 = inCentury by omega]
  constructor
  · omega
  · omega

/-- The years that moments may lie in hold the days from zero up to a fixed number. -/
theorem isValidYear_dateOf_iff {number : Int} :
    isValidYear (dateOf number).year = true ↔ 0 ≤ number ∧ number < 3652059 := by
  obtain ⟨most, last⟩ := @yearsInCycle_spec (number % 146097).toNat (by omega)
  rw [isValidYear, Bool.and_eq_true, decide_eq_true_eq, decide_eq_true_eq, dateOf_year]
  generalize yearsInCycle (number % 146097).toNat = years at most last
  omega

theorem daysInMonth_le (year : Int) (month : Nat) : daysInMonth year month ≤ 31 := by
  unfold daysInMonth
  split_ifs <;> omega

theorem foldl_daysInMonth_le (year : Int) (months : List Nat) (start : Nat) :
    months.foldl (fun days earlier => days + daysInMonth year earlier) start ≤
      start + 31 * months.length := by
  induction months generalizing start with
  | nil => exact Nat.le_refl _
  | cons month months ih =>
      have first := daysInMonth_le year month
      have later := ih (start + daysInMonth year month)
      rw [List.foldl_cons, List.length_cons]
      omega

theorem daysBeforeMonth_le {year : Int} {month : Nat} (known : month ≤ 12) :
    daysBeforeMonth year month ≤ 341 := by
  have most := foldl_daysInMonth_le year (List.range' 1 (month - 1)) 0
  rw [List.length_range'] at most
  unfold daysBeforeMonth
  omega

end Calendar

namespace Moment

def firstSecond : Int := -62135596800

def lastSecond : Int := 253402300799

theorem fitsBits_iff {bits : Nat} {value : Int} :
    fitsBits bits value = true ↔
      -(Nat.pow 2 (bits - 1) : Nat) ≤ value ∧ value < (Nat.pow 2 (bits - 1) : Nat) := by
  simp [fitsBits]

/-- Seconds of Unix time are a moment exactly if they lie in the years of moments. -/
theorem exists_ofUnixSeconds_iff {seconds : Int} :
    (∃ moment, ofUnixSeconds seconds = .ok moment) ↔
      firstSecond ≤ seconds ∧ seconds ≤ lastSecond := by
  have years : Calendar.isValidYear (Calendar.dateOf (seconds / 86400 + unixEpochDay)).year = true ↔
      firstSecond ≤ seconds ∧ seconds ≤ lastSecond := by
    rw [Calendar.isValidYear_dateOf_iff]
    simp only [unixEpochDay, firstSecond, lastSecond]
    omega
  rw [← years]
  unfold ofUnixSeconds
  dsimp only
  constructor
  · rintro ⟨moment, read⟩
    split_ifs at read with _ _ valid
    exact valid
  · -- Seconds and years that are valid fit into the widths that are tested before them.
    intro valid
    have small : fitsBits 64 seconds = true := by
      obtain ⟨least, most⟩ := years.mp valid
      simp only [firstSecond, lastSecond] at least most
      rw [fitsBits_iff]
      norm_num
      omega
    have smallYear : fitsBits 32
        ((Calendar.dateOf (seconds / 86400 + unixEpochDay)).year - 1900) = true := by
      simp only [Calendar.isValidYear, Bool.and_eq_true, decide_eq_true_eq] at valid
      rw [fitsBits_iff]
      norm_num
      omega
    rw [small, smallYear, valid]
    exact ⟨_, rfl⟩

/-- The fields of a moment are those of a date and a time of day, and its offset is less than a
day. -/
structure IsProper (moment : Moment) : Prop where
  year : 1 ≤ moment.date.year ∧ moment.date.year ≤ 9999
  month : 1 ≤ moment.date.month ∧ moment.date.month ≤ 12
  day : 1 ≤ moment.date.day ∧
    moment.date.day ≤ Calendar.daysInMonth moment.date.year moment.date.month
  hour : moment.hour < 24
  minute : moment.minute < 60
  second : moment.second < 60
  microsecond : moment.microsecond < 1000000
  offset : ∀ offset ∈ moment.offset, -86400 < offset ∧ offset < 86400

/-- Moments are less than nine thousand years from the start of Unix time. -/
theorem abs_unixMicroseconds_le {moment : Moment} (proper : moment.IsProper) :
    |moment.unixMicroseconds| ≤ 2 ^ 58 := by
  obtain ⟨year, month, day, hour, minute, second, microsecond, offset⟩ := proper
  have shift : -86400 < moment.offset.getD 0 ∧ moment.offset.getD 0 < 86400 := by
    cases ahead : moment.offset with
    | none => decide
    | some seconds => exact offset seconds ahead
  have monthDays := Calendar.daysInMonth_le moment.date.year moment.date.month
  have before := @Calendar.daysBeforeMonth_le moment.date.year _ month.2
  unfold unixMicroseconds Calendar.dayNumber Calendar.daysBeforeYear unixEpochDay
  dsimp only
  rw [abs_le]
  omega

end Moment

end MediaSearch

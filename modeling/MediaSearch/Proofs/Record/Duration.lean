import MediaSearch.Proofs.Integer.Digits
import MediaSearch.Record.Duration
import Mathlib.Algebra.Order.Field.Rat
import Mathlib.Data.Rat.Floor

/-!
# What durations tell

The text of a duration tells its whole minutes from one hour on, and its whole seconds below. It
tells nothing else, so that durations look alike exactly if they agree on that.
-/

set_option autoImplicit false

namespace MediaSearch.Duration

def hoursText (hours minutes : Int) : String :=
  Integer.text hours ++ "h " ++ Integer.text minutes ++ "m"

def minutesText (minutes seconds : Int) : String :=
  Integer.text minutes ++ "m " ++ Integer.text seconds ++ "s"

def hour : Int := 3600000

def wholeMinutes (milliseconds : Int) : Int := ⌊(milliseconds : ℚ) / 60000⌋

def wholeSeconds (milliseconds : Int) : Int := ⌊(milliseconds : ℚ) / 1000⌋

/-- At least one hour, and minutes below one. -/
structure Hours (milliseconds hours minutes : Int) : Prop where
  reached : hour ≤ milliseconds
  positive : 1 ≤ hours
  least : 0 ≤ minutes
  below : minutes < 60
  whole : 60 * hours + minutes = wholeMinutes milliseconds

/-- Less than an hour, and seconds below a minute. Before zero the minutes are negative. -/
structure Minutes (milliseconds minutes seconds : Int) : Prop where
  unreached : milliseconds < hour
  few : minutes < 60
  least : 0 ≤ seconds
  below : seconds < 60
  whole : 60 * minutes + seconds = wholeSeconds milliseconds

theorem wholeMinutes_eq (milliseconds : Int) : wholeMinutes milliseconds = milliseconds / 60000 :=
  Rat.floor_intCast_div_natCast milliseconds 60000

theorem wholeSeconds_eq (milliseconds : Int) : wholeSeconds milliseconds = milliseconds / 1000 :=
  Rat.floor_intCast_div_natCast milliseconds 1000

theorem toList_hoursText (hours minutes : Int) :
    (hoursText hours minutes).toList =
      Integer.characters hours ++ ('h' :: ' ' :: (Integer.characters minutes ++ ['m'])) := by
  simp [hoursText, Integer.text]

theorem toList_minutesText (minutes seconds : Int) :
    (minutesText minutes seconds).toList =
      Integer.characters minutes ++ ('m' :: ' ' :: (Integer.characters seconds ++ ['s'])) := by
  simp [minutesText, Integer.text]

theorem hoursText_inj {hours minutes otherHours otherMinutes : Int}
    (same : hoursText hours minutes = hoursText otherHours otherMinutes) :
    hours = otherHours ∧ minutes = otherMinutes := by
  have letters := congrArg String.toList same
  rw [toList_hoursText, toList_hoursText] at letters
  obtain ⟨sameHours, rest⟩ := Integer.characters_append_inj (by rfl) (by rfl) letters
  have behind := (List.cons.inj (List.cons.inj rest).2).2
  exact ⟨sameHours, (Integer.characters_append_inj (by rfl) (by rfl) behind).1⟩

theorem minutesText_inj {minutes seconds otherMinutes otherSeconds : Int}
    (same : minutesText minutes seconds = minutesText otherMinutes otherSeconds) :
    minutes = otherMinutes ∧ seconds = otherSeconds := by
  have letters := congrArg String.toList same
  rw [toList_minutesText, toList_minutesText] at letters
  obtain ⟨sameMinutes, rest⟩ := Integer.characters_append_inj (by rfl) (by rfl) letters
  have behind := (List.cons.inj (List.cons.inj rest).2).2
  exact ⟨sameMinutes, (Integer.characters_append_inj (by rfl) (by rfl) behind).1⟩

theorem hoursText_ne_minutesText (hours minutes otherMinutes seconds : Int) :
    hoursText hours minutes ≠ minutesText otherMinutes seconds := by
  intro same
  have letters := congrArg String.toList same
  rw [toList_hoursText, toList_minutesText] at letters
  obtain ⟨-, rest⟩ := Integer.characters_append_inj (by rfl) (by rfl) letters
  exact absurd (List.cons.inj rest).1 (by decide)

/-- The first count of the text has few enough digits: hours from one hour on, and minutes below. -/
structure Writable (milliseconds : Int) : Prop where
  least : -60000 * (Integer.bound - 1) ≤ milliseconds
  greatest : milliseconds < 3600000 * Integer.bound

theorem text_of_hour_le {milliseconds : Int} (reached : hour ≤ milliseconds) :
    text milliseconds = (Integer.write (milliseconds / 60000 / 60)).map fun hours =>
      hours ++ "h " ++ Integer.text (milliseconds / 60000 % 60) ++ "m" := by
  have minutes : milliseconds / 1000 / 60 = milliseconds / 60000 := by omega
  have positive : 0 < milliseconds / 60000 / 60 := by
    unfold hour at reached
    omega
  have few : -Integer.bound < milliseconds / 60000 % 60 ∧
      milliseconds / 60000 % 60 < Integer.bound := by
    have large := Integer.hundred_le_bound
    omega
  unfold text
  dsimp only
  rw [minutes, if_pos positive, Integer.write_of_fits few]
  cases Integer.write (milliseconds / 60000 / 60) <;> rfl

theorem text_of_lt_hour {milliseconds : Int} (unreached : milliseconds < hour) :
    text milliseconds = (Integer.write (milliseconds / 1000 / 60)).map fun minutes =>
      minutes ++ "m " ++ Integer.text (milliseconds / 1000 % 60) ++ "s" := by
  have noHours : ¬ 0 < milliseconds / 1000 / 60 / 60 := by
    unfold hour at unreached
    omega
  have few : -Integer.bound < milliseconds / 1000 % 60 ∧
      milliseconds / 1000 % 60 < Integer.bound := by
    have large := Integer.hundred_le_bound
    omega
  unfold text
  dsimp only
  rw [if_neg noHours, Integer.write_of_fits few]
  cases Integer.write (milliseconds / 1000 / 60) <;> rfl

/-- A duration that can be written has hours and minutes from one hour on. -/
theorem text_of_hours {milliseconds : Int} (reached : hour ≤ milliseconds)
    (writable : Writable milliseconds) :
    text milliseconds =
      .ok (hoursText (milliseconds / 60000 / 60) (milliseconds / 60000 % 60)) := by
  have small : -Integer.bound < milliseconds / 60000 / 60 ∧
      milliseconds / 60000 / 60 < Integer.bound := by
    have greatest := writable.greatest
    have large := Integer.hundred_le_bound
    unfold hour at reached
    omega
  rw [text_of_hour_le reached, Integer.write_of_fits small]
  rfl

/-- A duration that can be written has minutes and seconds below one hour. -/
theorem text_of_minutes {milliseconds : Int} (unreached : milliseconds < hour)
    (writable : Writable milliseconds) :
    text milliseconds =
      .ok (minutesText (milliseconds / 1000 / 60) (milliseconds / 1000 % 60)) := by
  have small : -Integer.bound < milliseconds / 1000 / 60 ∧
      milliseconds / 1000 / 60 < Integer.bound := by
    have least := writable.least
    have large := Integer.hundred_le_bound
    unfold hour at unreached
    omega
  rw [text_of_lt_hour unreached, Integer.write_of_fits small]
  rfl

theorem text_of_not_writable {milliseconds : Int} (long : ¬ Writable milliseconds) :
    text milliseconds = .error .tooManyDigits := by
  have large := Integer.hundred_le_bound
  by_cases reached : hour ≤ milliseconds
  · have many : ¬ (-Integer.bound < milliseconds / 60000 / 60 ∧
        milliseconds / 60000 / 60 < Integer.bound) := by
      intro small
      unfold hour at reached
      exact long ⟨by omega, by omega⟩
    rw [text_of_hour_le reached, Integer.write_of_not_fits many]
    rfl
  · have unreached := Int.not_le.mp reached
    have many : ¬ (-Integer.bound < milliseconds / 1000 / 60 ∧
        milliseconds / 1000 / 60 < Integer.bound) := by
      intro small
      unfold hour at unreached
      exact long ⟨by omega, by omega⟩
    rw [text_of_lt_hour unreached, Integer.write_of_not_fits many]
    rfl

theorem writable_of_text {milliseconds : Int} {written : String}
    (told : text milliseconds = .ok written) : Writable milliseconds := by
  by_contra long
  rw [text_of_not_writable long] at told
  cases told

theorem text_eq_hoursText_iff {milliseconds hours minutes : Int} :
    text milliseconds = .ok (hoursText hours minutes) ↔
      Writable milliseconds ∧ Hours milliseconds hours minutes := by
  constructor
  · intro told
    have writable := writable_of_text told
    by_cases reached : hour ≤ milliseconds
    · rw [text_of_hours reached writable] at told
      obtain ⟨rfl, rfl⟩ := hoursText_inj (Except.ok.inj told)
      have atLeast := reached
      unfold hour at atLeast
      refine ⟨writable, reached, by omega, by omega, by omega, ?_⟩
      rw [wholeMinutes_eq]
      omega
    · rw [text_of_minutes (Int.not_le.mp reached) writable] at told
      exact absurd (Except.ok.inj told).symm (hoursText_ne_minutesText _ _ _ _)
  · rintro ⟨writable, reached, positive, least, below, whole⟩
    rw [wholeMinutes_eq] at whole
    have quotient : milliseconds / 60000 / 60 = hours := by omega
    have remainder : milliseconds / 60000 % 60 = minutes := by omega
    rw [text_of_hours reached writable, quotient, remainder]

theorem text_eq_minutesText_iff {milliseconds minutes seconds : Int} :
    text milliseconds = .ok (minutesText minutes seconds) ↔
      Writable milliseconds ∧ Minutes milliseconds minutes seconds := by
  constructor
  · intro told
    have writable := writable_of_text told
    by_cases reached : hour ≤ milliseconds
    · rw [text_of_hours reached writable] at told
      exact absurd (Except.ok.inj told) (hoursText_ne_minutesText _ _ _ _)
    · have unreached := Int.not_le.mp reached
      rw [text_of_minutes unreached writable] at told
      obtain ⟨rfl, rfl⟩ := minutesText_inj (Except.ok.inj told)
      have below := unreached
      unfold hour at below
      refine ⟨writable, unreached, by omega, by omega, by omega, ?_⟩
      rw [wholeSeconds_eq]
      omega
  · rintro ⟨writable, unreached, few, least, below, whole⟩
    rw [wholeSeconds_eq] at whole
    have quotient : milliseconds / 1000 / 60 = minutes := by omega
    have remainder : milliseconds / 1000 % 60 = seconds := by omega
    rw [text_of_minutes unreached writable, quotient, remainder]

/-- Durations from an hour on look alike exactly if they have the same whole minutes. -/
theorem text_eq_text_iff_of_hour_le {first second : Int} (reached : hour ≤ first)
    (writable : Writable first) (alsoWritable : Writable second) :
    text first = text second ↔
      hour ≤ second ∧ wholeMinutes first = wholeMinutes second := by
  rw [text_of_hours reached writable, eq_comm, text_eq_hoursText_iff, wholeMinutes_eq,
    wholeMinutes_eq]
  unfold hour at reached
  constructor
  · intro told
    have whole := told.2.whole
    rw [wholeMinutes_eq] at whole
    exact ⟨told.2.reached, by omega⟩
  · rintro ⟨alsoReached, same⟩
    refine ⟨alsoWritable, alsoReached, by omega, by omega, by omega, ?_⟩
    rw [wholeMinutes_eq]
    omega

/-- Durations below an hour look alike exactly if they have the same whole seconds. -/
theorem text_eq_text_iff_of_lt_hour {first second : Int} (unreached : first < hour)
    (writable : Writable first) (alsoWritable : Writable second) :
    text first = text second ↔
      second < hour ∧ wholeSeconds first = wholeSeconds second := by
  rw [text_of_minutes unreached writable, eq_comm, text_eq_minutesText_iff, wholeSeconds_eq,
    wholeSeconds_eq]
  unfold hour at unreached
  constructor
  · intro told
    have whole := told.2.whole
    rw [wholeSeconds_eq] at whole
    exact ⟨told.2.unreached, by omega⟩
  · rintro ⟨alsoUnreached, same⟩
    refine ⟨alsoWritable, alsoUnreached, by omega, by omega, by omega, ?_⟩
    rw [wholeSeconds_eq]
    omega

/-- A duration has a text exactly if the first count of it is not too long. The text then has hours
exactly from one hour on. Whatever parts it shows are in range and make up the whole minutes or the
whole seconds, and nothing else shows. -/
theorem text_tells_duration (milliseconds : Int) :
    (text milliseconds = .error .tooManyDigits ↔ ¬ Writable milliseconds) ∧
    ((∃ hours minutes, text milliseconds = .ok (hoursText hours minutes)) ↔
      Writable milliseconds ∧ hour ≤ milliseconds) ∧
    ((∃ minutes seconds, text milliseconds = .ok (minutesText minutes seconds)) ↔
      Writable milliseconds ∧ milliseconds < hour) ∧
    (∀ hours minutes, text milliseconds = .ok (hoursText hours minutes) →
      1 ≤ hours ∧ 0 ≤ minutes ∧ minutes < 60 ∧
        60 * hours + minutes = ⌊(milliseconds : ℚ) / 60000⌋) ∧
    (∀ minutes seconds, text milliseconds = .ok (minutesText minutes seconds) →
      minutes < 60 ∧ 0 ≤ seconds ∧ seconds < 60 ∧
        60 * minutes + seconds = ⌊(milliseconds : ℚ) / 1000⌋) ∧
    ∀ other, Writable milliseconds → Writable other → (text milliseconds = text other ↔
      (milliseconds < hour ∧ other < hour ∧
        ⌊(milliseconds : ℚ) / 1000⌋ = ⌊(other : ℚ) / 1000⌋) ∨
      (hour ≤ milliseconds ∧ hour ≤ other ∧
        ⌊(milliseconds : ℚ) / 60000⌋ = ⌊(other : ℚ) / 60000⌋)) := by
  refine ⟨?_, ?_, ?_, ?_, ?_, ?_⟩
  · constructor
    · intro refused writable
      rcases Int.lt_or_le milliseconds hour with unreached | reached
      · rw [text_of_minutes unreached writable] at refused
        cases refused
      · rw [text_of_hours reached writable] at refused
        cases refused
    · exact text_of_not_writable
  · constructor
    · rintro ⟨hours, minutes, told⟩
      exact (text_eq_hoursText_iff.mp told).imp_right Hours.reached
    · rintro ⟨writable, reached⟩
      exact ⟨_, _, text_of_hours reached writable⟩
  · constructor
    · rintro ⟨minutes, seconds, told⟩
      exact (text_eq_minutesText_iff.mp told).imp_right Minutes.unreached
    · rintro ⟨writable, unreached⟩
      exact ⟨_, _, text_of_minutes unreached writable⟩
  · intro hours minutes told
    obtain ⟨-, parts⟩ := text_eq_hoursText_iff.mp told
    exact ⟨parts.positive, parts.least, parts.below, parts.whole⟩
  · intro minutes seconds told
    obtain ⟨-, parts⟩ := text_eq_minutesText_iff.mp told
    exact ⟨parts.few, parts.least, parts.below, parts.whole⟩
  · intro other writable alsoWritable
    by_cases reached : hour ≤ milliseconds
    · rw [text_eq_text_iff_of_hour_le reached writable alsoWritable]
      simp [reached, Int.not_lt.mpr reached, wholeMinutes]
    · have unreached := Int.not_le.mp reached
      rw [text_eq_text_iff_of_lt_hour unreached writable alsoWritable]
      simp [unreached, reached, wholeSeconds]

/-- Two durations of an hour and fifty-two minutes, one of them almost a minute longer. -/
theorem text_tells_duration_to_the_minute :
    Writable 6720000 ∧ Writable 6779999 ∧ text 6720000 = .ok "1h 52m" ∧
      text 6779999 = .ok "1h 52m" := by
  have large := Integer.hundred_le_bound
  have first : Writable 6720000 := ⟨by omega, by omega⟩
  have second : Writable 6779999 := ⟨by omega, by omega⟩
  have told : text 6720000 = .ok (hoursText 1 52) :=
    text_eq_hoursText_iff.mpr ⟨first, by decide, by decide, by decide, by decide, by
      rw [wholeMinutes_eq]
      rfl⟩
  have alike := ((text_tells_duration 6720000).2.2.2.2.2 6779999 first second).mpr (.inr (by
    change hour ≤ 6720000 ∧ hour ≤ 6779999 ∧ wholeMinutes 6720000 = wholeMinutes 6779999
    rw [wholeMinutes_eq, wholeMinutes_eq]
    decide))
  exact ⟨first, second, told, alike.symm.trans told⟩

/-- From an hour on there are durations without a text of hours and minutes. -/
theorem text_of_longest_refused :
    hour ≤ 10 ^ 4307 ∧ ¬ ∃ hours minutes, text (10 ^ 4307) = .ok (hoursText hours minutes) := by
  have split : (10 : Int) ^ 4307 = 10000000 * Integer.bound := Int.pow_add 10 7 4300
  have large := Integer.hundred_le_bound
  rw [split]
  constructor
  · unfold hour
    omega
  · rintro ⟨hours, minutes, told⟩
    have greatest := (writable_of_text told).greatest
    omega

end MediaSearch.Duration

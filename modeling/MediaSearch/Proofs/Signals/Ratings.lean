import MediaSearch.Proofs.Phrase.Words
import MediaSearch.Proofs.Signals.Amounts

/-!
# Ratings in texts

A numeral behind a word for ratings and a word for a bound is the number that the numeral is read as
by itself.
-/

set_option autoImplicit false

namespace MediaSearch

open Phrase Text

/-- Digits of any script, at least one. -/
structure Digits where
  characters : List Char
  nonempty : characters ≠ []
  numeric : characters.all isDigit = true

def Digits.value (digits : Digits) : Nat :=
  digitsValue digits.characters

/-- A numeral with or without a fractional part. -/
structure Rating where
  whole : Digits
  fraction : Option Digits

namespace Rating

def characters (rating : Rating) : List Char :=
  rating.whole.characters ++ rating.fraction.elim [] ('.' :: ·.characters)

def value (rating : Rating) : Binary64 :=
  Binary64.ofDigits rating.whole.characters (rating.fraction.elim [] (·.characters))

end Rating

theorem Digits.isNumeric (digits : Digits) : IsNumeric digits.characters :=
  fun character member => .inl (List.all_eq_true.mp digits.numeric character member)

theorem Rating.isNumeric (rating : Rating) : IsNumeric rating.characters := by
  obtain ⟨whole, fraction⟩ := rating
  intro character member
  rcases List.mem_append.mp member with inWhole | inFraction
  · exact whole.isNumeric character inWhole
  · cases fraction with
    | none => exact absurd inFraction List.not_mem_nil
    | some digits =>
        rcases List.mem_cons.mp inFraction with point | member
        · exact .inr point
        · exact digits.isNumeric character member

/-!
## Numerals by themselves
-/

theorem Text.trimWhile_eq_self {drops : Char → Bool} {text : List Char}
    (keeps : ∀ character ∈ text, drops character = false) : trimWhile drops text = text := by
  have front : text.dropWhile drops = text := by
    rw [List.dropWhile_eq_self_iff]
    intro nonempty
    simp [keeps]
  have back : text.reverse.dropWhile drops = text.reverse := by
    rw [List.dropWhile_eq_self_iff]
    intro nonempty
    rw [keeps _ (List.mem_reverse.mp (List.getElem_mem _))]
    decide
  rw [trimWhile, dropEndWhile, front, back, List.reverse_reverse]

theorem Numeral.joinDigits?_eq_self {text : List Char} (joined : '_' ∉ text) (afterDigit : Bool) :
    joinDigits? afterDigit text = some text := by
  induction text generalizing afterDigit with
  | nil => rfl
  | cons character text ih =>
      have other : character ≠ '_' := fun same => joined (same ▸ List.mem_cons_self)
      have rest : '_' ∉ text := fun member => joined (List.mem_cons_of_mem _ member)
      rw [joinDigits?, ih rest]
      · rfl
      · exact fun same => absurd same other
      · exact fun next more same => absurd same other

theorem Digits.exists_first (digits : Digits) :
    ∃ first rest, digits.characters = first :: rest ∧ isDigit first = true := by
  obtain ⟨characters, nonempty, numeric⟩ := digits
  cases characters with
  | nil => exact absurd rfl nonempty
  | cons first rest => exact ⟨first, rest, rfl, (List.all_eq_true.mp numeric) _ List.mem_cons_self⟩

namespace Rating

theorem exists_first (rating : Rating) :
    ∃ first rest, rating.characters = first :: rest ∧ isDigit first = true := by
  obtain ⟨first, rest, spelled, digit⟩ := rating.whole.exists_first
  exact ⟨first, _, by rw [characters, spelled, List.cons_append], digit⟩

/-- No sign, blank or underscore is taken off a numeral. -/
theorem parts?_characters (rating : Rating) :
    Numeral.parts? rating.characters = some (false, rating.characters) := by
  have numeric := rating.isNumeric
  have noBlank : ∀ character ∈ rating.characters, isNumeralBlank character = false := by
    intro character member
    rcases numeric character member with digit | rfl
    · rw [isNumeralBlank, Signal.not_isBlank_of_isDigit digit, Bool.false_and]
    · decide
  have noUnderscore : '_' ∉ rating.characters := by
    intro member
    exact absurd (numeric _ member) (by decide)
  obtain ⟨first, rest, spelled, digit⟩ := rating.exists_first
  rw [Numeral.parts?, trimWhile_eq_self noBlank, Numeral.joinDigits?_eq_self noUnderscore, spelled,
    Option.map_some, Numeral.splitSign]
  · rintro _ ⟨⟩
    exact absurd digit (by decide)
  · rintro _ ⟨⟩
    exact absurd digit (by decide)

/-- A numeral is not taken for a word. -/
theorem lower_characters_ne (rating : Rating) {word : String}
    (letter : word.toList.head?.any (!isDigit ·) = true) :
    String.ofList (rating.characters.map Char.toLower) ≠ word := by
  obtain ⟨first, rest, spelled, digit⟩ := rating.exists_first
  rintro rfl
  rw [String.toList_ofList, spelled, List.map_cons, toLower_of_isDigit digit] at letter
  simp [digit] at letter

theorem ofCharacters?_characters (rating : Rating) :
    Binary64.Decimal.ofCharacters? rating.characters = some
      ⟨rating.whole.characters ++ rating.fraction.elim [] (·.characters),
        -((rating.fraction.elim [] (·.characters)).length : Int)⟩ := by
  obtain ⟨whole, fraction⟩ := rating
  have someWhole : whole.characters.isEmpty = false := by
    simpa using whole.nonempty
  cases fraction with
  | none =>
      have span : Numeral.spanDigits (characters ⟨whole, none⟩) = (whole.characters, []) :=
        spanDigits_eq_iff.mpr ⟨whole.numeric, rfl, rfl⟩
      simp [Binary64.Decimal.ofCharacters?, span, someWhole, Binary64.exponent?]
  | some digits =>
      have span : Numeral.spanDigits (characters ⟨whole, some digits⟩) =
          (whole.characters, '.' :: digits.characters) :=
        spanDigits_eq_iff.mpr ⟨whole.numeric, rfl, rfl⟩
      have behindPoint : Numeral.spanDigits digits.characters = (digits.characters, []) :=
        spanDigits_eq_iff.mpr ⟨digits.numeric, rfl, (List.append_nil _).symm⟩
      simp [Binary64.Decimal.ofCharacters?, span, behindPoint, someWhole, Binary64.exponent?]

/-- The value of a rating is the number that its numeral is read as. -/
theorem ofText?_characters (rating : Rating) :
    Binary64.ofText? rating.characters = some rating.value := by
  have noWord : ∀ word ∈ ["inf", "infinity", "nan"],
      String.ofList (rating.characters.map Char.toLower) ≠ word := by
    intro word listed
    have letters : ∀ word ∈ ["inf", "infinity", "nan"],
        word.toList.head?.any (!isDigit ·) = true := by
      decide
    exact rating.lower_characters_ne (letters word listed)
  simp only [List.forall_mem_cons] at noWord
  obtain ⟨noInf, noInfinity, noNan, _⟩ := noWord
  simp [Binary64.ofText?, parts?_characters, noInf, noInfinity, noNan, ofCharacters?_characters,
    value, Binary64.ofDigits]

end Rating

/-!
## Numerals behind words
-/

namespace Signal

theorem decimalHere?_rating (rating : Rating) {rest : List Char} (apart : StandsApart rest) :
    decimalHere? (rating.characters ++ rest) = some rating.value := by
  obtain ⟨whole, fraction⟩ := rating
  have ends : rest.head?.any isDigit = false := by
    cases rest with
    | nil => rfl
    | cons character rest =>
        obtain rfl : character = ' ' := apart character rfl
        rfl
  cases fraction with
  | none =>
      have taken : someDigits? (Rating.characters ⟨whole, none⟩ ++ rest) =
          some (whole.characters, rest) :=
        someDigits?_eq_some_iff.mpr ⟨whole.nonempty, whole.numeric, ends,
          congrArg (· ++ rest) (List.append_nil _)⟩
      refine Option.bind_eq_some_iff.mpr ⟨_, taken, ?_⟩
      cases rest with
      | nil => rfl
      | cons character rest =>
          obtain rfl : character = ' ' := apart character rfl
          rfl
  | some digits =>
      have taken : someDigits? (Rating.characters ⟨whole, some digits⟩ ++ rest) =
          some (whole.characters, '.' :: (digits.characters ++ rest)) :=
        someDigits?_eq_some_iff.mpr ⟨whole.nonempty, whole.numeric, rfl, List.append_assoc ..⟩
      have behindPoint : Numeral.spanDigits (digits.characters ++ rest) =
          (digits.characters, rest) :=
        spanDigits_eq_iff.mpr ⟨digits.numeric, ends, rfl⟩
      refine Option.bind_eq_some_iff.mpr ⟨_, taken, ?_⟩
      simp [behindPoint, Rating.value]

section Bounds

variable {bounds : List String} {bound : String}

theorem awaits_rating (bounds : List String) :
    Awaits (ratingHere? bounds) ["rated", "rate", "rating"] := by
  intro text value read
  obtain ⟨rest, taken, _⟩ := Option.bind_eq_some_iff.mp read
  obtain ⟨word, listed, rfl⟩ := exists_of_afterWord? taken
  exact ⟨word, listed, List.prefix_append _ _⟩

theorem exists_bound_of_rating {text : List Char} {value : Binary64}
    (read : ratingHere? bounds text = some value) :
    ∃ bound ∈ bounds, bound.toList <:+: text := by
  obtain ⟨rest, taken, read⟩ := Option.bind_eq_some_iff.mp read
  obtain ⟨behind, bounded, _⟩ := Option.bind_eq_some_iff.mp read
  obtain ⟨word, _, rfl⟩ := exists_of_afterWord? taken
  obtain ⟨bound, listed, split⟩ := exists_of_afterWord? bounded
  have inRest : bound.toList <:+: rest := by
    refine List.IsInfix.trans ?_ (List.dropWhile_suffix isBlank).isInfix
    rw [← skipBlanks, split]
    exact (List.prefix_append _ _).isInfix
  exact ⟨bound, listed, inRest.trans (List.suffix_append _ _).isInfix⟩

theorem ratingHere?_rated (bounds : List String) {text : List Char}
    (solid : text.head?.any isBlank = false) :
    ratingHere? bounds ("rated".toList ++ ' ' :: text) =
      (afterWord? bounds text).bind fun rest => decimalHere? (skipBlanks rest) := by
  have taken : afterWord? ["rated", "rate", "rating"] ("rated".toList ++ ' ' :: text) =
      some (' ' :: text) := rfl
  have skipped : skipBlanks (' ' :: text) = text := skipBlanks_eq_self solid
  rw [ratingHere?, taken, Option.bind_eq_bind, Option.bind_some, skipped]

/-- A rating is read behind a bound that is searched for, ... -/
theorem ratingHere?_of_mem (apart : Apart bounds) (member : bound ∈ bounds)
    (solid : bound.toList.head?.any (!isBlank ·) = true) (rating : Rating) {rest : List Char}
    (ends : StandsApart rest) :
    ratingHere? bounds
        ("rated".toList ++ ' ' :: (bound.toList ++ ' ' :: (rating.characters ++ rest))) =
      some rating.value := by
  have starts : (bound.toList ++ ' ' :: (rating.characters ++ rest)).head?.any isBlank = false := by
    cases spelled : bound.toList with
    | nil => simp [spelled] at solid
    | cons character characters => simpa [spelled] using solid
  have behind : skipBlanks (' ' :: (rating.characters ++ rest)) = rating.characters ++ rest := by
    obtain ⟨first, others, spelled, digit⟩ := rating.exists_first
    rw [spelled]
    have stays : skipBlanks (first :: others ++ rest) = first :: others ++ rest :=
      skipBlanks_eq_self (by simpa using not_isBlank_of_isDigit digit)
    exact stays
  rw [ratingHere?_rated bounds starts, afterWord?_of_mem apart member, Option.bind_some, behind,
    decimalHere?_rating rating ends]

/-- ... and not behind another one. -/
theorem ratingHere?_of_not_mem (apart : Apart (bound :: bounds)) (other : bound ∉ bounds)
    (solid : bound.toList.head?.any (!isBlank ·) = true) (rest : List Char) :
    ratingHere? bounds ("rated".toList ++ ' ' :: (bound.toList ++ rest)) = none := by
  have starts : (bound.toList ++ rest).head?.any isBlank = false := by
    cases spelled : bound.toList with
    | nil => simp [spelled] at solid
    | cons character characters => simpa [spelled] using solid
  have untaken : afterWord? bounds (bound.toList ++ rest) = none := by
    refine afterWord?_eq_none_iff.mpr fun word listed begun => other ?_
    have same := apart.eq_of_prefix (List.mem_cons_of_mem _ listed) List.mem_cons_self begun
    exact same ▸ listed
  rw [ratingHere?_rated bounds starts, untaken, Option.bind_none]

/-- A search passes over a rating behind another bound. -/
theorem first_rating_of_not_mem (apart : Apart (bound :: bounds)) (other : bound ∉ bounds)
    (solid : bound.toList.head?.any (!isBlank ·) = true)
    (unsaid : ∀ word ∈ ["rated", "rate", "rating"], Unsaid ["ated", bound] word.toList)
    (rating : Rating) (rest : List Char) :
    first (ratingHere? bounds)
        ("rated".toList ++ ' ' :: (bound.toList ++ ' ' :: (rating.characters ++ ' ' :: rest))) =
      first (ratingHere? bounds) rest := by
  have drawn : DrawnFrom ["ated", bound] ["ated".toList, bound.toList, rating.characters] :=
    (((drawnFrom_nil _).cons_numeric rating.isNumeric).cons_entry (by simp)).cons_entry (by simp)
  have passed := (awaits_rating bounds).first_joined unsaid drawn rest
  rw [joined_cons, trailing_cons, trailing_cons] at passed
  simp only [trailing, List.flatMap_nil, List.append_nil, List.append_assoc, List.cons_append]
    at passed
  refine Eq.trans ?_ passed
  exact first_cons_of_eq_none (ratingHere?_of_not_mem apart other solid _)

end Bounds

end Signal

end MediaSearch

import MediaSearch.Proofs.Binary64.Layout
import MediaSearch.Proofs.Json.Grammar

/-!
# Tokens of JSON

Gaps, texts and numbers of JSON are read in one way at most. A number and a gap end where a character
stands that cannot go on with them, a text with its quotation mark.
-/

set_option autoImplicit false

namespace MediaSearch.Json

open MediaSearch.Text (Apart append_inj_of_apart)

/-- Whether a character may go on with a value or with the gap behind it. -/
def continues (character : Char) : Bool :=
  isGap character || Binary64.isPart character

theorem apart_isGap_of_continues {text : List Char} (apart : Apart continues text) : Apart isGap text := by
  cases text with
  | nil => rfl
  | cons character text => exact (Bool.or_eq_false_iff.mp apart).1

theorem apart_isPart_of_continues {text : List Char} (apart : Apart continues text) :
    Apart Binary64.isPart text := by
  cases text with
  | nil => rfl
  | cons character text => exact (Bool.or_eq_false_iff.mp apart).2

theorem Gap.unique {text rest otherRest : List Char} (gap : Gap text rest)
    (otherGap : Gap text otherRest) (apart : Apart isGap rest) (otherApart : Apart isGap otherRest) :
    rest = otherRest := by
  obtain ⟨blanks, all, rfl⟩ := gap
  obtain ⟨otherBlanks, otherAll, same⟩ := otherGap
  exact (append_inj_of_apart all otherAll apart otherApart same).2

theorem isPart_of_isGap {character : Char} (gap : isGap character = true) :
    Binary64.isPart character = false := by
  simp only [isGap, Bool.or_eq_true, beq_iff_eq] at gap
  rcases gap with ((rfl | rfl) | rfl) | rfl <;> rfl

/-- No number goes on over a gap. -/
theorem Gap.apart {text rest : List Char} (gap : Gap text rest)
    (apart : Apart Binary64.isPart rest) : Apart Binary64.isPart text := by
  obtain ⟨blanks, all, rfl⟩ := gap
  cases blanks with
  | nil => exact apart
  | cons blank blanks => exact isPart_of_isGap (all blank List.mem_cons_self)

/-!
## Texts
-/

theorem codeUnit_unique {text rest otherRest : List Char} {value other : Nat}
    (unit : CodeUnit text value rest) (otherUnit : CodeUnit text other otherRest) :
    value = other ∧ rest = otherRest := by
  obtain ⟨digits, four, valued, rfl⟩ := unit
  obtain ⟨otherDigits, otherFour, otherValued, same⟩ := otherUnit
  obtain ⟨rfl, rfl⟩ := List.append_inj same (four.trans otherFour.symm)
  exact ⟨Option.some.inj (valued.symm.trans otherValued), rfl⟩

theorem escape_unique {mark character other : Char} (escape : (mark, character) ∈ escapes)
    (otherEscape : (mark, other) ∈ escapes) : character = other := by
  have functional : escapes.all fun first => escapes.all fun second =>
      first.1 != second.1 || first.2 == second.2 := by decide
  have pair := List.all_eq_true.mp (List.all_eq_true.mp functional _ escape) _ otherEscape
  simpa using pair

theorem escape_mark_ne {character : Char} : ('u', character) ∉ escapes := by
  intro escape
  have unlisted : (escapes.all fun entry => entry.1 != 'u') = true := by decide
  simpa using List.all_eq_true.mp unlisted _ escape

/-- A character is no surrogate. -/
theorem toNat_ne_surrogate (character : Char) {high : Nat} (less : high < 0x400) :
    character.toNat ≠ 0xD800 + high := by
  intro same
  rcases character.valid with below | ⟨above, -⟩
  · have small : character.toNat < 0xD800 := below
    omega
  · have large : 0xDFFF < character.toNat := above
    omega

theorem letter_unique {text rest otherRest : List Char} {character other : Char}
    (letter : Letter text character rest) (otherLetter : Letter text other otherRest) :
    character = other ∧ rest = otherRest := by
  cases letter with
  | plain least noQuote noBackslash =>
      cases otherLetter with
      | plain => exact ⟨rfl, rfl⟩
      | escape => exact absurd rfl noBackslash
      | code => exact absurd rfl noBackslash
      | pair => exact absurd rfl noBackslash
  | escape escape =>
      cases otherLetter with
      | plain _ _ noBackslash => exact absurd rfl noBackslash
      | escape otherEscape => exact ⟨escape_unique escape otherEscape, rfl⟩
      | code => exact absurd escape escape_mark_ne
      | pair => exact absurd escape escape_mark_ne
  | code unit =>
      cases otherLetter with
      | plain _ _ noBackslash => exact absurd rfl noBackslash
      | escape escape => exact absurd escape escape_mark_ne
      | code otherUnit =>
          obtain ⟨same, rfl⟩ := codeUnit_unique unit otherUnit
          exact ⟨Char.toNat_inj.mp same, rfl⟩
      | pair high _ less =>
          exact absurd (codeUnit_unique unit high).1 (toNat_ne_surrogate character less)
  | pair high low less _ paired =>
      cases otherLetter with
      | plain _ _ noBackslash => exact absurd rfl noBackslash
      | escape escape => exact absurd escape escape_mark_ne
      | code unit => exact absurd (codeUnit_unique unit high).1 (toNat_ne_surrogate other less)
      | pair otherHigh otherLow _ _ otherPaired =>
          obtain ⟨sameHigh, middle⟩ := codeUnit_unique high otherHigh
          obtain rfl := (List.cons.inj (List.cons.inj middle).2).2
          obtain ⟨sameLow, rfl⟩ := codeUnit_unique low otherLow
          have same : character.toNat = other.toNat := by omega
          exact ⟨Char.toNat_inj.mp same, rfl⟩

theorem letter_head_ne_quote {text rest : List Char} {character : Char}
    (letter : Letter ('"' :: text) character rest) : False := by
  cases letter with
  | plain _ noQuote => exact noQuote rfl

theorem letters_unique {text rest otherRest characters others : List Char}
    (letters : Letters text characters rest) (otherLetters : Letters text others otherRest) :
    characters = others ∧ rest = otherRest := by
  induction letters generalizing others with
  | done =>
      cases otherLetters with
      | done => exact ⟨rfl, rfl⟩
      | letter letter => exact absurd letter letter_head_ne_quote
  | letter letter _ ih =>
      cases otherLetters with
      | done => exact absurd letter letter_head_ne_quote
      | letter otherLetter otherLetters =>
          obtain ⟨rfl, rfl⟩ := letter_unique letter otherLetter
          obtain ⟨rfl, rfl⟩ := ih otherLetters
          exact ⟨rfl, rfl⟩

/-!
## Numbers
-/

theorem IsDigits.not_mem {digits : List Char} (isDigits : IsDigits digits) {character : Char}
    (other : character.isDigit = false) : character ∉ digits :=
  fun member => Bool.eq_false_iff.mp other (isDigits.2 character member)

theorem IsDigits.exists_cons {digits : List Char} (isDigits : IsDigits digits) :
    ∃ digit rest, digits = digit :: rest ∧ digit.isDigit = true := by
  obtain ⟨nonempty, all⟩ := isDigits
  obtain ⟨digit, rest, rfl⟩ := List.exists_cons_of_ne_nil nonempty
  exact ⟨digit, rest, rfl, all digit List.mem_cons_self⟩

theorem power_unique {text : List Char} {exponent other : Int} (power : Power text exponent)
    (otherPower : Power text other) : exponent = other := by
  cases power with
  | none => cases otherPower with
    | none => rfl
  | unsigned _ isDigits => cases otherPower with
    | unsigned => rfl
    | plus => exact absurd List.mem_cons_self (isDigits.not_mem rfl)
    | minus => exact absurd List.mem_cons_self (isDigits.not_mem rfl)
  | plus => cases otherPower with
    | unsigned _ isDigits => exact absurd List.mem_cons_self (isDigits.not_mem rfl)
    | plus => rfl
  | minus => cases otherPower with
    | unsigned _ isDigits => exact absurd List.mem_cons_self (isDigits.not_mem rfl)
    | minus => rfl

theorem apart_power {text : List Char} {exponent : Int} (power : Power text exponent) :
    Apart (fun character => character.isDigit || character == '.') text := by
  cases power with
  | none => rfl
  | unsigned mark => rcases mark with rfl | rfl <;> rfl
  | plus mark => rcases mark with rfl | rfl <;> rfl
  | minus mark => rcases mark with rfl | rfl <;> rfl

theorem apart_isDigit_power {text : List Char} {exponent : Int} (power : Power text exponent) :
    Apart Char.isDigit text := by
  have apart := apart_power power
  cases text with
  | nil => rfl
  | cons character text => exact (Bool.or_eq_false_iff.mp apart).1

theorem fraction_append_inj {fraction digits power otherFraction others otherPower : List Char}
    {exponent other : Int} (isFraction : Fraction fraction digits) (isPower : Power power exponent)
    (isOther : Fraction otherFraction others) (isOtherPower : Power otherPower other)
    (same : fraction ++ power = otherFraction ++ otherPower) :
    digits = others ∧ exponent = other := by
  cases isFraction with
  | none =>
      cases isOther with
      | none =>
          obtain rfl : power = otherPower := same
          exact ⟨rfl, power_unique isPower isOtherPower⟩
      | point =>
          obtain rfl : power = _ := same
          exact absurd (apart_power isPower) (by simp [Apart])
  | point isDigits =>
      cases isOther with
      | none =>
          obtain rfl : _ = otherPower := same
          exact absurd (apart_power isOtherPower) (by simp [Apart])
      | point isOtherDigits =>
          obtain ⟨sameDigits, rfl⟩ := append_inj_of_apart isDigits.2 isOtherDigits.2
            (apart_isDigit_power isPower) (apart_isDigit_power isOtherPower)
            (List.cons.inj same).2
          exact ⟨sameDigits, power_unique isPower isOtherPower⟩

theorem apart_fraction {fraction digits power : List Char} {exponent : Int}
    (isFraction : Fraction fraction digits) (isPower : Power power exponent) :
    Apart Char.isDigit (fraction ++ power) := by
  apply Apart.append _ (apart_isDigit_power isPower)
  cases isFraction with
  | none => rfl
  | point => rfl

theorem apart_sign_whole {whole rest : List Char} (isWhole : IsWhole whole) :
    Apart (· == '-') (whole ++ rest) := by
  obtain ⟨digit, others, rfl, isDigit⟩ := isWhole.1.exists_cons
  apply beq_false_of_ne
  rintro rfl
  exact absurd isDigit (by decide)

theorem sign_append_inj {negative other : Bool} {text otherText : List Char}
    (apart : Apart (· == '-') text) (otherApart : Apart (· == '-') otherText)
    (same : signText negative ++ text = signText other ++ otherText) :
    negative = other ∧ text = otherText := by
  have all (negative : Bool) : ∀ character ∈ signText negative, (character == '-') = true := by
    cases negative <;> simp [signText]
  obtain ⟨sign, rest⟩ := append_inj_of_apart (all _) (all _) apart otherApart same
  refine ⟨?_, rest⟩
  cases negative <;> cases other <;> simp_all [signText]

theorem whole_append_inj {negative other : Bool} {whole rest otherWhole otherRest : List Char}
    (isWhole : IsWhole whole) (isOther : IsWhole otherWhole) (apart : Apart Char.isDigit rest)
    (otherApart : Apart Char.isDigit otherRest)
    (same : signText negative ++ (whole ++ rest) = signText other ++ (otherWhole ++ otherRest)) :
    negative = other ∧ whole = otherWhole ∧ rest = otherRest := by
  obtain ⟨sign, behind⟩ := sign_append_inj (apart_sign_whole isWhole) (apart_sign_whole isOther) same
  exact ⟨sign, append_inj_of_apart isWhole.1.2 isOther.1.2 apart otherApart behind⟩

theorem numeral_unique {token otherToken : List Char} {value other : Value}
    (numeral : Numeral token value) (otherNumeral : Numeral otherToken other)
    (same : token = otherToken) : value = other := by
  cases numeral with
  | integer negative isWhole =>
      cases otherNumeral with
      | integer other isOther =>
          obtain ⟨rfl, rfl, -⟩ := whole_append_inj isWhole isOther Text.apart_nil Text.apart_nil
            (by simpa using same)
          rfl
      | real other isOther fraction power marked =>
          obtain ⟨-, -, bare⟩ := whole_append_inj isWhole isOther Text.apart_nil
            (apart_fraction fraction power) (by simpa using same)
          exact absurd bare.symm marked
  | real negative isWhole fraction power marked =>
      cases otherNumeral with
      | integer other isOther =>
          obtain ⟨-, -, bare⟩ := whole_append_inj isWhole isOther (apart_fraction fraction power)
            Text.apart_nil (by simpa using same)
          exact absurd bare marked
      | real other isOther otherFraction otherPower =>
          obtain ⟨rfl, rfl, behind⟩ := whole_append_inj isWhole isOther
            (apart_fraction fraction power) (apart_fraction otherFraction otherPower)
            (by simpa using same)
          obtain ⟨rfl, rfl⟩ := fraction_append_inj fraction power otherFraction otherPower behind
          rfl

theorem isPart_of_mem_power {text : List Char} {exponent : Int} (power : Power text exponent) :
    ∀ character ∈ text, Binary64.isPart character = true := by
  have digit {digits : List Char} (isDigits : IsDigits digits) :
      ∀ character ∈ digits, Binary64.isPart character = true :=
    fun character member => Binary64.isPart_of_isDigit (isDigits.2 character member)
  have sign {mark : Char} (isMark : mark = 'e' ∨ mark = 'E') : Binary64.isPart mark = true := by
    rcases isMark with rfl | rfl <;> rfl
  cases power with
  | none => exact List.forall_mem_nil _
  | unsigned mark isDigits => exact List.forall_mem_cons.mpr ⟨sign mark, digit isDigits⟩
  | plus mark isDigits =>
      exact List.forall_mem_cons.mpr ⟨sign mark, List.forall_mem_cons.mpr ⟨rfl, digit isDigits⟩⟩
  | minus mark isDigits =>
      exact List.forall_mem_cons.mpr ⟨sign mark, List.forall_mem_cons.mpr ⟨rfl, digit isDigits⟩⟩

theorem isPart_of_mem_numeral {token : List Char} {value : Value} (numeral : Numeral token value) :
    ∀ character ∈ token, Binary64.isPart character = true := by
  have sign (negative : Bool) : ∀ character ∈ signText negative,
      Binary64.isPart character = true := by
    cases negative <;> simp [signText, Binary64.isPart]
  have digit {digits : List Char} (isDigits : IsDigits digits) :
      ∀ character ∈ digits, Binary64.isPart character = true :=
    fun character member => Binary64.isPart_of_isDigit (isDigits.2 character member)
  cases numeral with
  | integer negative isWhole => exact List.forall_mem_append.mpr ⟨sign _, digit isWhole.1⟩
  | real negative isWhole fraction power =>
      refine List.forall_mem_append.mpr ⟨List.forall_mem_append.mpr
        ⟨List.forall_mem_append.mpr ⟨sign _, digit isWhole.1⟩, ?_⟩, isPart_of_mem_power power⟩
      cases fraction with
      | none => exact List.forall_mem_nil _
      | point isDigits => exact List.forall_mem_cons.mpr ⟨rfl, digit isDigits⟩

end MediaSearch.Json

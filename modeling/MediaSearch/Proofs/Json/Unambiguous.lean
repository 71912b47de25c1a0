import MediaSearch.Proofs.Json.Tokens

/-!
# JSON denotes one value

What is read off the front of a text is told by the text alone, as long as a number does not go on
behind it. The first character of a value tells its kind, so that kinds are never confused.
-/

set_option autoImplicit false

namespace MediaSearch.Json

open MediaSearch.Text (Apart append_inj_of_apart)

/-- A text has one reading at most, given that what is left does not begin with such a character. -/
def Unambiguous {α : Type} (part : Char → Bool) (reading : Reading α) : Prop :=
  ∀ ⦃text rest otherRest : List Char⦄ ⦃value other : α⦄, reading text value rest →
    reading text other otherRest → Apart part rest → Apart part otherRest →
    value = other ∧ rest = otherRest

/-!
## Kinds of values
-/

inductive Kind where
  | word | number | text | list | object
  deriving DecidableEq

/-- The kind of the values that begin with a character. -/
def kindOf? (character : Char) : Option Kind :=
  if character = '"' then some .text
  else if character = '[' then some .list
  else if character = '\x7b' then some .object
  else if character = 'n' ∨ character = 't' ∨ character = 'f' then some .word
  else if character.isDigit ∨ character = '-' then some .number
  else none

def valueKind? : Value → Option Kind
  | .null | .bool _ => some .word
  | .int _ | .real _ => some .number
  | .text _ => some .text
  | .timestamp _ => none
  | .list _ => some .list
  | .object _ => some .object

theorem kindOf?_of_isDigit {character : Char} (digit : character.isDigit = true) :
    kindOf? character = some .number := by
  have other (mark : Char) (isMark : mark.isDigit = false) : character ≠ mark := by
    rintro rfl
    exact Bool.eq_false_iff.mp isMark digit
  simp [kindOf?, digit, other '"' rfl, other '[' rfl, other '\x7b' rfl, other 'n' rfl,
    other 't' rfl, other 'f' rfl]

theorem numeral_head {token : List Char} {value : Value} (numeral : Numeral token value) :
    ∃ first rest, token = first :: rest ∧ kindOf? first = some .number ∧
      valueKind? value = some .number := by
  have head (negative : Bool) {whole : List Char} (isWhole : IsWhole whole) (rest : List Char) :
      ∃ first behind, signText negative ++ (whole ++ rest) = first :: behind ∧
        kindOf? first = some .number := by
    cases negative with
    | true => exact ⟨'-', _, rfl, rfl⟩
    | false =>
        obtain ⟨digit, others, rfl, isDigit⟩ := isWhole.1.exists_cons
        exact ⟨digit, _, rfl, kindOf?_of_isDigit isDigit⟩
  cases numeral with
  | integer negative isWhole =>
      obtain ⟨first, behind, same, kind⟩ := head negative isWhole []
      exact ⟨first, behind, by simpa using same, kind, rfl⟩
  | @real negative whole fraction digits power exponent isWhole =>
      obtain ⟨first, behind, same, kind⟩ := head negative isWhole (fraction ++ power)
      exact ⟨first, behind, by simpa using same, kind, rfl⟩

/-- The first character of a value tells its kind. -/
def Begins (reading : Reading Value) : Prop :=
  ∀ ⦃text rest : List Char⦄ ⦃value : Value⦄, reading text value rest →
    ∃ first behind kind, text = first :: behind ∧ kindOf? first = some kind ∧
      valueKind? value = some kind

theorem begins_sentence (inner : Reading Value) : Begins (Sentence inner) := by
  intro text rest value sentence
  cases sentence with
  | word word =>
      simp only [words, List.mem_cons, Prod.mk.injEq, List.not_mem_nil, or_false] at word
      rcases word with ⟨rfl, rfl⟩ | ⟨rfl, rfl⟩ | ⟨rfl, rfl⟩
      · exact ⟨'n', _, .word, rfl, rfl, rfl⟩
      · exact ⟨'t', _, .word, rfl, rfl, rfl⟩
      · exact ⟨'f', _, .word, rfl, rfl, rfl⟩
  | number numeral =>
      obtain ⟨first, behind, rfl, kind, valueKind⟩ := numeral_head numeral
      exact ⟨first, _, .number, rfl, kind, valueKind⟩
  | text => exact ⟨'"', _, .text, rfl, rfl, rfl⟩
  | list => exact ⟨'[', _, .list, rfl, rfl, rfl⟩
  | object => exact ⟨'\x7b', _, .object, rfl, rfl, rfl⟩

theorem valueKind?_of_sentence {inner : Reading Value} {opened text rest : List Char} {value : Value}
    {first : Char} {kind : Kind} (read : Sentence inner opened value rest)
    (opens : opened = first :: text) (isKind : kindOf? first = some kind) :
    valueKind? value = some kind := by
  obtain ⟨start, behind, other, same, isOther, valueKind⟩ := begins_sentence inner read
  obtain rfl := (List.cons.inj (opens.symm.trans same)).1
  rw [valueKind, ← isOther, isKind]

theorem kindOf?_of_isGap {character : Char} (gap : isGap character = true) :
    kindOf? character = none := by
  simp only [isGap, Bool.or_eq_true, beq_iff_eq] at gap
  rcases gap with ((rfl | rfl) | rfl) | rfl <;> rfl

theorem Begins.apart {reading : Reading Value} (begins : Begins reading) {text rest : List Char}
    {value : Value} (read : reading text value rest) : Apart isGap text := by
  obtain ⟨first, behind, kind, rfl, isKind, -⟩ := begins read
  rw [Text.apart_cons, Bool.eq_false_iff]
  intro gap
  rw [kindOf?_of_isGap gap] at isKind
  cases isKind

/-!
## Lists and objects
-/

section Inner

variable {inner : Reading Value} (begins : Begins inner)
  (unambiguous : Unambiguous Binary64.isPart inner)
include begins unambiguous

theorem unambiguous_padded : Unambiguous continues (Padded inner) := by
  rintro text rest otherRest value other ⟨start, stop, before, read, after⟩
    ⟨otherStart, otherStop, otherBefore, otherRead, otherAfter⟩ apart otherApart
  obtain rfl := before.unique otherBefore (begins.apart read) (begins.apart otherRead)
  obtain ⟨same, rfl⟩ := unambiguous read otherRead (after.apart (apart_isPart_of_continues apart))
    (otherAfter.apart (apart_isPart_of_continues otherApart))
  exact ⟨same, after.unique otherAfter (apart_isGap_of_continues apart)
    (apart_isGap_of_continues otherApart)⟩

theorem unambiguous_member : Unambiguous continues (Member inner) := by
  rintro text rest otherRest ⟨name, value⟩ ⟨otherName, other⟩
    ⟨start, stop, valueText, before, letters, colon, read⟩
    ⟨otherStart, otherStop, otherText, otherBefore, otherLetters, otherColon, otherRead⟩
    apart otherApart
  obtain rfl := (List.cons.inj (before.unique otherBefore rfl rfl)).2
  obtain ⟨sameLetters, rfl⟩ := letters_unique letters otherLetters
  obtain rfl := (List.cons.inj (colon.unique otherColon rfl rfl)).2
  obtain ⟨rfl, rest⟩ := unambiguous_padded begins unambiguous read otherRead apart otherApart
  obtain rfl := String.toList_inj.mp sameLetters
  exact ⟨rfl, rest⟩

end Inner

section Series

variable {α : Type} {element : Reading α} {closing : Char}
  (unambiguous : Unambiguous continues element) (ends : continues closing = false)
  (noComma : closing ≠ ',')

section Series

include unambiguous ends noComma

theorem series_unique {text rest otherRest : List Char} {values others : List α}
    (series : Series element closing text values rest)
    (otherSeries : Series element closing text others otherRest) :
    values = others ∧ rest = otherRest := by
  induction series generalizing others with
  | last read =>
      cases otherSeries with
      | last otherRead =>
          obtain ⟨rfl, same⟩ := unambiguous read otherRead ends ends
          exact ⟨rfl, (List.cons.inj same).2⟩
      | more otherRead =>
          obtain ⟨-, same⟩ := unambiguous read otherRead ends rfl
          exact absurd (List.cons.inj same).1 noComma
  | more read _ ih =>
      cases otherSeries with
      | last otherRead =>
          obtain ⟨-, same⟩ := unambiguous read otherRead rfl ends
          exact absurd (List.cons.inj same).1.symm noComma
      | more otherRead otherRest =>
          obtain ⟨rfl, same⟩ := unambiguous read otherRead rfl rfl
          obtain rfl := (List.cons.inj same).2
          obtain ⟨rfl, rfl⟩ := ih otherRest
          exact ⟨rfl, rfl⟩

end Series

/-- Whatever is read begins after a gap, and not with a closing bracket. -/
def Starts (element : Reading α) (closing : Char) : Prop :=
  ∀ ⦃text rest : List Char⦄ ⦃value : α⦄, element text value rest →
    ∃ first behind, Gap text (first :: behind) ∧ isGap first = false ∧ first ≠ closing

variable (starts : Starts element closing)

section Series

include ends starts

theorem Starts.not_gap {text rest otherRest : List Char} {value : α}
    (read : element text value rest) : ¬ Gap text (closing :: otherRest) := by
  intro gap
  obtain ⟨first, behind, before, solid, different⟩ := starts read
  have same := before.unique gap solid (Bool.or_eq_false_iff.mp ends).1
  exact different (List.cons.inj same).1

theorem Starts.not_gap_of_series {text rest otherRest : List Char} {values : List α}
    (series : Series element closing text values rest) : ¬ Gap text (closing :: otherRest) := by
  cases series with
  | last read => exact starts.not_gap ends read
  | more read => exact starts.not_gap ends read

end Series

include unambiguous ends noComma starts

theorem body_unique {text rest otherRest : List Char} {values others : List α}
    (body : Body element closing text values rest)
    (otherBody : Body element closing text others otherRest) :
    values = others ∧ rest = otherRest := by
  cases body with
  | empty gap =>
      cases otherBody with
      | empty otherGap =>
          have solid := (Bool.or_eq_false_iff.mp ends).1
          exact ⟨rfl, (List.cons.inj (gap.unique otherGap solid solid)).2⟩
      | series series => exact absurd gap (starts.not_gap_of_series ends series)
  | series series =>
      cases otherBody with
      | empty gap => exact absurd gap (starts.not_gap_of_series ends series)
      | series otherSeries => exact series_unique unambiguous ends noComma series otherSeries

end Series

theorem Begins.starts_padded {inner : Reading Value} (begins : Begins inner) :
    Starts (Padded inner) ']' := by
  rintro text rest value ⟨start, stop, before, read, -⟩
  have solid := begins.apart read
  obtain ⟨first, behind, kind, rfl, isKind, -⟩ := begins read
  refine ⟨first, behind, before, solid, ?_⟩
  rintro rfl
  cases isKind

theorem starts_member (inner : Reading Value) : Starts (Member inner) '\x7d' := by
  rintro text rest entry ⟨start, stop, value, before, -⟩
  exact ⟨'"', start, before, rfl, by decide⟩

/-!
## Values
-/

theorem valueKind?_of_word {word : String} {value : Value} (isWord : (word, value) ∈ words) :
    valueKind? value = some .word := by
  simp only [words, List.mem_cons, Prod.mk.injEq, List.not_mem_nil, or_false] at isWord
  rcases isWord with ⟨-, rfl⟩ | ⟨-, rfl⟩ | ⟨-, rfl⟩ <;> rfl

theorem valueKind?_of_numeral {token : List Char} {value : Value} (numeral : Numeral token value) :
    valueKind? value = some .number := by
  obtain ⟨_, _, _, _, kind⟩ := numeral_head numeral
  exact kind

theorem word_unique {word otherWord : String} {value other : Value} {rest otherRest : List Char}
    (isWord : (word, value) ∈ words) (isOther : (otherWord, other) ∈ words)
    (same : word.toList ++ rest = otherWord.toList ++ otherRest) :
    value = other ∧ rest = otherRest := by
  simp only [words, List.mem_cons, Prod.mk.injEq, List.not_mem_nil, or_false] at isWord isOther
  rcases isWord with ⟨rfl, rfl⟩ | ⟨rfl, rfl⟩ | ⟨rfl, rfl⟩ <;>
    rcases isOther with ⟨rfl, rfl⟩ | ⟨rfl, rfl⟩ | ⟨rfl, rfl⟩ <;> simp_all

theorem sentence_unique {inner : Reading Value} (begins : Begins inner)
    (unambiguous : Unambiguous Binary64.isPart inner)
    {text otherText rest otherRest : List Char} {value other : Value}
    (read : Sentence inner text value rest) (otherRead : Sentence inner otherText other otherRest)
    (same : text = otherText) (apart : Apart Binary64.isPart rest)
    (otherApart : Apart Binary64.isPart otherRest) : value = other ∧ rest = otherRest := by
  have kinds : valueKind? value = valueKind? other := by
    obtain ⟨first, behind, kind, begins, isKind, valueKind⟩ := begins_sentence inner read
    rw [valueKind, valueKind?_of_sentence otherRead (same.symm.trans begins) isKind]
  -- Of two kinds neither can be the other, so that only equal constructors are left.
  cases read with
  | word isWord =>
      have kind := (valueKind?_of_word isWord).symm.trans kinds
      cases otherRead with
      | word isOther => exact word_unique isWord isOther same
      | number numeral => cases kind.trans (valueKind?_of_numeral numeral)
      | _ => cases kind
  | number numeral =>
      have kind := (valueKind?_of_numeral numeral).symm.trans kinds
      cases otherRead with
      | word isOther => cases kind.trans (valueKind?_of_word isOther)
      | number otherNumeral =>
          obtain ⟨sameToken, rfl⟩ := append_inj_of_apart (isPart_of_mem_numeral numeral)
            (isPart_of_mem_numeral otherNumeral) apart otherApart same
          exact ⟨numeral_unique numeral otherNumeral sameToken, rfl⟩
      | _ => cases kind
  | text letters =>
      cases otherRead with
      | word isOther => cases kinds.trans (valueKind?_of_word isOther)
      | number numeral => cases kinds.trans (valueKind?_of_numeral numeral)
      | text otherLetters =>
          obtain rfl := (List.cons.inj same).2
          obtain ⟨rfl, rfl⟩ := letters_unique letters otherLetters
          exact ⟨rfl, rfl⟩
      | _ => cases kinds
  | list body =>
      cases otherRead with
      | word isOther => cases kinds.trans (valueKind?_of_word isOther)
      | number numeral => cases kinds.trans (valueKind?_of_numeral numeral)
      | list otherBody =>
          obtain rfl := (List.cons.inj same).2
          obtain ⟨rfl, rfl⟩ := body_unique (unambiguous_padded begins unambiguous) rfl (by decide)
            begins.starts_padded body otherBody
          exact ⟨rfl, rfl⟩
      | _ => cases kinds
  | object body =>
      cases otherRead with
      | word isOther => cases kinds.trans (valueKind?_of_word isOther)
      | number numeral => cases kinds.trans (valueKind?_of_numeral numeral)
      | object otherBody =>
          obtain rfl := (List.cons.inj same).2
          obtain ⟨rfl, rfl⟩ := body_unique (unambiguous_member begins unambiguous) rfl (by decide)
            (starts_member inner) body otherBody
          exact ⟨rfl, rfl⟩
      | _ => cases kinds

/-!
## Depth
-/

/-- Whatever the first relation reads, the second reads too. -/
def Within {α : Type} (narrow wide : Reading α) : Prop :=
  ∀ ⦃text rest : List Char⦄ ⦃value : α⦄, narrow text value rest → wide text value rest

section Within

variable {narrow wide : Reading Value} (within : Within narrow wide)
include within

theorem within_padded : Within (Padded narrow) (Padded wide) := by
  rintro text rest value ⟨start, stop, before, read, after⟩
  exact ⟨start, stop, before, within read, after⟩

theorem within_member : Within (Member narrow) (Member wide) := by
  rintro text rest entry ⟨start, stop, value, before, letters, colon, read⟩
  exact ⟨start, stop, value, before, letters, colon, within_padded within read⟩

end Within

theorem within_series {α : Type} {narrow wide : Reading α} (within : Within narrow wide)
    (closing : Char) : Within (Series narrow closing) (Series wide closing) := by
  intro text rest values series
  induction series with
  | last read => exact .last (within read)
  | more read _ ih => exact .more (within read) ih

theorem within_body {α : Type} {narrow wide : Reading α} (within : Within narrow wide)
    (closing : Char) : Within (Body narrow closing) (Body wide closing) := by
  intro text rest values body
  cases body with
  | empty gap => exact .empty gap
  | series series => exact .series (within_series within closing series)

theorem within_sentence {narrow wide : Reading Value} (within : Within narrow wide) :
    Within (Sentence narrow) (Sentence wide) := by
  intro text rest value sentence
  cases sentence with
  | word isWord => exact .word isWord
  | number numeral => exact .number numeral
  | text letters => exact .text letters
  | list body => exact .list (within_body (within_padded within) _ body)
  | object body distinct => exact .object (within_body (within_member within) _ body) distinct

theorem within_denotes {depth deeper : Nat} (le : depth ≤ deeper) :
    Within (Denotes depth) (Denotes deeper) := by
  induction depth generalizing deeper with
  | zero => exact fun _ _ _ impossible => impossible.elim
  | succ depth ih =>
      cases deeper with
      | zero => exact absurd le (Nat.not_succ_le_zero depth)
      | succ deeper => exact within_sentence (ih (Nat.le_of_succ_le_succ le))

theorem begins_denotes (depth : Nat) : Begins (Denotes depth) := by
  cases depth with
  | zero => exact fun _ _ _ impossible => impossible.elim
  | succ depth => exact begins_sentence _

theorem unambiguous_denotes (depth : Nat) : Unambiguous Binary64.isPart (Denotes depth) := by
  induction depth with
  | zero => exact fun _ _ _ _ _ impossible => impossible.elim
  | succ depth ih =>
      intro text rest otherRest value other read otherRead
      exact sentence_unique (begins_denotes depth) ih read otherRead rfl

theorem begins_reads : Begins Reads :=
  fun _ _ _ ⟨depth, read⟩ => begins_denotes depth read

theorem unambiguous_reads : Unambiguous Binary64.isPart Reads := by
  rintro text rest otherRest value other ⟨depth, read⟩ ⟨otherDepth, otherRead⟩
  exact unambiguous_denotes _ (within_denotes (Nat.le_max_left depth otherDepth) read)
    (within_denotes (Nat.le_max_right depth otherDepth) otherRead)

/-- Elements that are read at some depth each are all read at one depth. -/
theorem exists_body {α : Type} {element : Nat → Reading α}
    (grows : ∀ {depth deeper : Nat}, depth ≤ deeper → Within (element depth) (element deeper))
    {closing : Char} {text rest : List Char} {values : List α}
    (body : Body (fun text value rest => ∃ depth, element depth text value rest) closing text values
      rest) : ∃ depth, Body (element depth) closing text values rest := by
  cases body with
  | empty gap => exact ⟨0, .empty gap⟩
  | series series =>
      suffices ∃ depth, Series (element depth) closing text values rest by
        obtain ⟨depth, series⟩ := this
        exact ⟨depth, .series series⟩
      induction series with
      | last read =>
          obtain ⟨depth, read⟩ := read
          exact ⟨depth, .last read⟩
      | more read _ ih =>
          obtain ⟨depth, read⟩ := read
          obtain ⟨otherDepth, series⟩ := ih
          exact ⟨max depth otherDepth, .more (grows (Nat.le_max_left ..) read)
            (within_series (grows (Nat.le_max_right ..)) closing series)⟩

theorem reads_iff {text rest : List Char} {value : Value} :
    Reads text value rest ↔ Sentence Reads text value rest := by
  constructor
  · rintro ⟨depth, read⟩
    cases depth with
    | zero => exact read.elim
    | succ depth => exact within_sentence (fun _ _ _ inner => ⟨depth, inner⟩) read
  · intro read
    cases read with
    | word isWord => exact ⟨1, .word isWord⟩
    | number numeral => exact ⟨1, .number numeral⟩
    | text letters => exact ⟨1, .text letters⟩
    | list body =>
        have deep : Within (Padded Reads)
            (fun text value rest => ∃ depth, Padded (Denotes depth) text value rest) := by
          rintro text rest value ⟨start, stop, before, ⟨depth, read⟩, after⟩
          exact ⟨depth, start, stop, before, read, after⟩
        obtain ⟨depth, body⟩ := exists_body
          (fun le => within_padded (within_denotes le)) (within_body deep _ body)
        exact ⟨depth + 1, .list body⟩
    | object body distinct =>
        have deep : Within (Member Reads)
            (fun text value rest => ∃ depth, Member (Denotes depth) text value rest) := by
          rintro text rest entry ⟨start, stop, value, before, letters, colon, inside⟩
          obtain ⟨first, last, front, ⟨depth, read⟩, back⟩ := inside
          exact ⟨depth, start, stop, value, before, letters, colon, first, last, front, read, back⟩
        obtain ⟨depth, body⟩ := exists_body
          (fun le => within_member (within_denotes le)) (within_body deep _ body)
        exact ⟨depth + 1, .object body distinct⟩

/-- A text denotes one value at most. -/
theorem IsText.unique {text : List Char} {value other : Value} (isText : IsText text value)
    (isOther : IsText text other) : value = other :=
  (unambiguous_padded begins_reads unambiguous_reads isText isOther rfl rfl).1

end MediaSearch.Json

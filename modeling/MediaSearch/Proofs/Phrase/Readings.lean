import MediaSearch.Phrase

/-!
# Leftmost readings

A search gives what a recogniser makes of the leftmost place at which it makes anything of the text.
What is read at a place is a relation on what stands before the place, what stands from the place
on, and a value, so that readings can be told without the recogniser.
-/

set_option autoImplicit false

namespace MediaSearch.Phrase

open MediaSearch.Text

variable {α : Type}

/-- What can be read at a place of a text. -/
abbrev Reading (α : Type) := (before after : List Char) → α → Prop

/-- The value that is read at the leftmost place of a text at which any is, if there is such a
place. -/
inductive Leftmost (reads : Reading α) (text : List Char) : Option α → Prop where
  | found {before after : List Char} {value : α} :
      text = before ++ after → reads before after value →
      (∀ earlier later other, text = earlier ++ later → earlier.length < before.length →
        ¬ reads earlier later other) →
      Leftmost reads text (some value)
  | absent :
      (∀ before after other, text = before ++ after → ¬ reads before after other) →
      Leftmost reads text none

/-- The recogniser makes of every place exactly what is read there. -/
def Recognises (recognise : Option Char → List Char → Option α) (reads : Reading α) : Prop :=
  ∀ before after value, recognise before.getLast? after = some value ↔ reads before after value

section Search

variable {recognise : Option Char → List Char → Option α} {reads : Reading α}

theorem Recognises.eq_of_reads (agrees : Recognises recognise reads) {before after : List Char}
    {first second : α} (left : reads before after first) (right : reads before after second) :
    first = second := by
  have here := (agrees before after first).mpr left
  rw [(agrees before after second).mpr right] at here
  exact (Option.some.inj here).symm

/-- A search that has come to a place without having read anything goes on from there. -/
theorem leftmost_firstAfter_append (agrees : Recognises recognise reads) (text seen : List Char)
    (unread : ∀ earlier later other, seen ++ text = earlier ++ later →
      earlier.length < seen.length → ¬ reads earlier later other) :
    Leftmost reads (seen ++ text) (firstAfter recognise seen.getLast? text) := by
  induction text generalizing seen with
  | nil =>
      cases here : recognise seen.getLast? [] with
      | some value =>
          rw [firstAfter, here]
          exact .found rfl ((agrees seen [] value).mp here) unread
      | none =>
          rw [firstAfter, here]
          refine .absent ?_
          intro before after other split read
          rcases Nat.lt_or_ge before.length seen.length with less | more
          · exact unread before after other split less read
          · -- Nothing is left behind the last place.
            have lengths := congrArg List.length split
            simp only [List.length_append, List.length_nil] at lengths
            obtain ⟨rfl, rfl⟩ := List.append_inj split (by omega)
            rw [(agrees _ _ _).mpr read] at here
            cases here
  | cons character rest ih =>
      cases here : recognise seen.getLast? (character :: rest) with
      | some value =>
          rw [firstAfter, here]
          exact .found rfl ((agrees seen _ value).mp here) unread
      | none =>
          rw [firstAfter, here]
          have seenMore : seen ++ character :: rest = (seen ++ [character]) ++ rest := by simp
          rw [seenMore, ← List.getLast?_concat (l := seen)]
          apply ih
          intro earlier later other split less read
          rw [← seenMore] at split
          rcases Nat.lt_or_ge earlier.length seen.length with further | last
          · exact unread earlier later other split further read
          · rw [List.length_append, List.length_singleton] at less
            obtain ⟨rfl, rfl⟩ := List.append_inj split (by omega)
            rw [(agrees _ _ _).mpr read] at here
            cases here

theorem leftmost_firstAfter (agrees : Recognises recognise reads) (text : List Char) :
    Leftmost reads text (firstAfter recognise none text) :=
  leftmost_firstAfter_append agrees text [] fun _ _ _ _ earlier _ => absurd earlier (Nat.not_lt_zero _)

theorem Leftmost.unique (agrees : Recognises recognise reads) {text : List Char}
    {first second : Option α} (left : Leftmost reads text first)
    (right : Leftmost reads text second) : first = second := by
  cases left with
  | absent unread =>
      cases right with
      | absent => rfl
      | found split read _ => exact absurd read (unread _ _ _ split)
  | @found before after value split read leftmost =>
      cases right with
      | absent unread => exact absurd read (unread _ _ _ split)
      | @found otherBefore otherAfter other otherSplit otherRead otherLeftmost =>
          rcases Nat.lt_trichotomy before.length otherBefore.length with less | same | more
          · exact absurd read (otherLeftmost _ _ _ split less)
          · obtain ⟨rfl, rfl⟩ := List.append_inj (split.symm.trans otherSplit) same
            rw [agrees.eq_of_reads read otherRead]
          · exact absurd otherRead (leftmost _ _ _ otherSplit more)

theorem leftmost_iff_firstAfter (agrees : Recognises recognise reads) {text : List Char}
    {result : Option α} :
    Leftmost reads text result ↔ result = firstAfter recognise none text := by
  constructor
  · exact fun leftmost => leftmost.unique agrees (leftmost_firstAfter agrees text)
  · rintro rfl
    exact leftmost_firstAfter agrees text

theorem isSome_firstAfter_iff (agrees : Recognises recognise reads) {text : List Char} :
    (firstAfter recognise none text).isSome = true ↔
      ∃ before after value, text = before ++ after ∧ reads before after value := by
  have leftmost := leftmost_firstAfter agrees text
  generalize firstAfter recognise none text = result at leftmost
  cases leftmost with
  | found split read _ => exact iff_of_true rfl ⟨_, _, _, split, read⟩
  | absent unread =>
      refine iff_of_false Bool.false_ne_true ?_
      rintro ⟨before, after, value, split, read⟩
      exact unread before after value split read

end Search

/-- A recogniser that looks ahead only may be searched with as one that also looks back. -/
theorem first_eq_firstAfter (recognise : List Char → Option α) (before : Option Char)
    (text : List Char) : first recognise text = firstAfter (fun _ => recognise) before text := by
  induction text generalizing before with
  | nil => rfl
  | cons character rest ih =>
      cases here : recognise (character :: rest) with
      | some value => rw [first, firstAfter, here]
      | none => rw [first, firstAfter, here, ih (some character)]

theorem leftmost_iff_first {recognise : List Char → Option α} {reads : Reading α}
    (agrees : Recognises (fun _ => recognise) reads) {text : List Char} {result : Option α} :
    Leftmost reads text result ↔ result = first recognise text := by
  rw [first_eq_firstAfter recognise none]
  exact leftmost_iff_firstAfter agrees

/-!
## Digits, blanks and words
-/

theorem exists_digitRange {character : Char} (digit : isDigit character = true) :
    ∃ range ∈ digitRanges, range.1 ≤ character.toNat ∧ character.toNat ≤ range.2 := by
  obtain ⟨value, read⟩ := Option.isSome_iff_exists.mp digit
  unfold digitValue? at read
  split at read
  · split at read
    · rename_i basic
      exact ⟨(0x30, 0x39), by decide, by simpa using basic⟩
    · cases read
  · obtain ⟨range, chosen, _⟩ := Option.map_eq_some_iff.mp read
    exact ⟨range, List.mem_of_find?_eq_some chosen, by simpa using List.find?_some chosen⟩

theorem isDigit_eq_false_of_isBlank {character : Char} (blank : isBlank character = true) :
    isDigit character = false := by
  have apart : ∀ blanks ∈ blankRanges, ∀ digits ∈ digitRanges,
      blanks.2 < digits.1 ∨ digits.2 < blanks.1 := by
    decide
  obtain ⟨blanks, inTable, least, greatest⟩ := CodeRanges.contains_iff.mp blank
  cases digit : isDigit character with
  | false => rfl
  | true =>
      obtain ⟨digits, digitsInTable, above, below⟩ := exists_digitRange digit
      rcases apart blanks inTable digits digitsInTable with before | behind
      · omega
      · omega

theorem digitValue_lt_ten (character : Char) : digitValue character < 10 := by
  unfold digitValue digitValue?
  split
  · split
    · rename_i basic
      simp only [Bool.and_eq_true, decide_eq_true_eq] at basic
      rw [Option.getD_some]
      omega
    · decide
  · cases digitRanges.find? fun range =>
        range.1 ≤ character.toNat && character.toNat ≤ range.2 with
    | none => exact Nat.succ_pos 9
    | some range => exact Nat.mod_lt _ (by decide)

/-- So many digits of any script in a row, and the number that they say. -/
structure IsNumeral (count : Nat) (digits : List Char) (value : Nat) : Prop where
  length : digits.length = count
  all : digits.all isDigit = true
  value : digitsValue digits = value

theorem fixedDigits?_eq_some_iff {count value : Nat} {text : List Char} :
    fixedDigits? count text = some value ↔
      ∃ digits rest, text = digits ++ rest ∧ IsNumeral count digits value := by
  constructor
  · intro read
    simp only [fixedDigits?, Option.ite_none_right_eq_some, Bool.and_eq_true, decide_eq_true_eq,
      Option.some.injEq] at read
    obtain ⟨⟨length, all⟩, value⟩ := read
    exact ⟨text.take count, text.drop count, (List.take_append_drop count text).symm,
      ⟨length, all, value⟩⟩
  · rintro ⟨digits, rest, rfl, rfl, all, rfl⟩
    simp [fixedDigits?, all]

theorem afterWord?_eq_some_iff {word : String} {text rest : List Char} :
    afterWord? [word] text = some rest ↔ text = word.toList ++ rest := by
  have only : afterWord? [word] text = after? word.toList text := by
    simp only [afterWord?, afterAny?, List.map_cons, List.map_nil, List.findSome?_cons,
      List.findSome?_nil]
    cases after? word.toList text <;> rfl
  rw [only, after?_eq_some_iff]

/-- Taking blanks off in front of a digit takes all of them. -/
theorem fixedDigits?_afterBlanks?_eq_some_iff {count value : Nat} {text : List Char}
    (wanted : 0 < count) :
    (afterBlanks? text).bind (fixedDigits? count) = some value ↔
      ∃ blanks digits rest, text = blanks ++ digits ++ rest ∧ blanks ≠ [] ∧
        blanks.all isBlank = true ∧ IsNumeral count digits value := by
  constructor
  · intro read
    obtain ⟨behind, blank, read⟩ := Option.bind_eq_some_iff.mp read
    obtain ⟨digits, rest, rfl, numeral⟩ := fixedDigits?_eq_some_iff.mp read
    simp only [afterBlanks?, Option.ite_none_right_eq_some, Option.some.injEq] at blank
    obtain ⟨starts, skipped⟩ := blank
    refine ⟨text.takeWhile isBlank, digits, rest, ?_, ?_, List.all_takeWhile, numeral⟩
    · rw [List.append_assoc, ← skipped]
      exact List.takeWhile_append_dropWhile.symm
    · cases text with
      | nil => simp at starts
      | cons character text =>
          have first : isBlank character = true := by simpa using starts
          simp [first]
  · rintro ⟨blanks, digits, rest, rfl, more, blank, numeral⟩
    have starts : (blanks ++ digits ++ rest).head?.any isBlank = true := by
      cases blanks with
      | nil => exact absurd rfl more
      | cons character blanks =>
          simp only [List.all_cons, Bool.and_eq_true] at blank
          simpa using blank.1
    have skipped : skipBlanks (blanks ++ digits ++ rest) = digits ++ rest := by
      cases digits with
      | nil => exact absurd numeral.length (Nat.ne_of_lt wanted)
      | cons digit digits =>
          have stops : isBlank digit = false := by
            cases blank : isBlank digit with
            | false => rfl
            | true =>
                have numeric := numeral.all
                simp [isDigit_eq_false_of_isBlank blank] at numeric
          rw [skipBlanks, List.append_assoc,
            List.dropWhile_append_of_pos (List.all_eq_true.mp blank)]
          simp [stops]
    rw [afterBlanks?, if_pos starts, skipped]
    exact fixedDigits?_eq_some_iff.mpr ⟨digits, rest, rfl, numeral⟩

end MediaSearch.Phrase

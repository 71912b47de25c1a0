import MediaSearch.Proofs.Phrase.Readings

/-!
# Steps of recognisers

Recognisers take blanks, digits and words off the front of a text, one after the other. Each step
is told by how it splits the text.
-/

set_option autoImplicit false

namespace MediaSearch.Phrase

open MediaSearch.Text

/-!
## Blanks and digits
-/

theorem skipBlanks_append {blanks : List Char} (blank : blanks.all isBlank = true)
    (text : List Char) : skipBlanks (blanks ++ text) = skipBlanks text :=
  List.dropWhile_append_of_pos (List.all_eq_true.mp blank)

theorem skipBlanks_eq_self {text : List Char} (solid : text.head?.any isBlank = false) :
    skipBlanks text = text := by
  cases text with
  | nil => rfl
  | cons character text => exact List.dropWhile_cons_of_neg (by simpa using solid)

theorem head?_skipBlanks (text : List Char) : (skipBlanks text).head?.any isBlank = false := by
  induction text with
  | nil => rfl
  | cons character text ih =>
      cases blank : isBlank character with
      | true => rwa [skipBlanks, List.dropWhile_cons_of_pos blank]
      | false => simp [skipBlanks, blank]

theorem skipBlanks_gap {gap word : List Char} (blank : gap.all isBlank = true)
    (solid : word.head?.any (!isBlank ·) = true) (rest : List Char) :
    skipBlanks (gap ++ (word ++ rest)) = word ++ rest := by
  rw [skipBlanks_append blank]
  cases word with
  | nil => cases solid
  | cons character word => exact skipBlanks_eq_self (by simpa using solid)

theorem skipBlanks_idem (text : List Char) : skipBlanks (skipBlanks text) = skipBlanks text :=
  skipBlanks_eq_self (head?_skipBlanks text)

theorem exists_skipped (text : List Char) :
    ∃ blanks, blanks.all isBlank = true ∧ text = blanks ++ skipBlanks text :=
  ⟨text.takeWhile isBlank, List.all_takeWhile, List.takeWhile_append_dropWhile.symm⟩

theorem afterBlanks?_eq_some_iff {text rest : List Char} :
    afterBlanks? text = some rest ↔ rest.head?.any isBlank = false ∧
      ∃ blanks, blanks ≠ [] ∧ blanks.all isBlank = true ∧ text = blanks ++ rest := by
  constructor
  · intro taken
    simp only [afterBlanks?, Option.ite_none_right_eq_some, Option.some.injEq] at taken
    obtain ⟨starts, rfl⟩ := taken
    obtain ⟨blanks, blank, split⟩ := exists_skipped text
    refine ⟨head?_skipBlanks text, blanks, ?_, blank, split⟩
    rintro rfl
    rw [List.nil_append] at split
    rw [split, head?_skipBlanks] at starts
    cases starts
  · rintro ⟨solid, blanks, nonempty, blank, rfl⟩
    have starts : (blanks ++ rest).head?.any isBlank = true := by
      cases blanks with
      | nil => exact absurd rfl nonempty
      | cons character blanks =>
          simp only [List.all_cons, Bool.and_eq_true] at blank
          simpa using blank.1
    rw [afterBlanks?, if_pos starts, skipBlanks_append blank, skipBlanks_eq_self solid]

/-- What no blank passes is not passed behind blanks either, unless the word there passes it. -/
theorem head?_any_gap {test : Char → Bool}
    (apart : ∀ character, isBlank character = true → test character = false)
    {gap word : List Char} (blank : gap.all isBlank = true)
    (fails : word.head?.any (!test ·) = true) (rest : List Char) :
    (gap ++ (word ++ rest)).head?.any test = false := by
  cases gap with
  | nil =>
      cases word with
      | nil => cases fails
      | cons character word => simpa using fails
  | cons character gap =>
      simp only [List.all_cons, Bool.and_eq_true] at blank
      simpa using apart character blank.1

theorem spanDigits_eq_iff {text digits rest : List Char} :
    Numeral.spanDigits text = (digits, rest) ↔
      digits.all isDigit = true ∧ rest.head?.any isDigit = false ∧ text = digits ++ rest := by
  constructor
  · intro span
    obtain ⟨rfl, rfl⟩ := Prod.mk.inj span
    refine ⟨List.all_takeWhile, ?_, List.takeWhile_append_dropWhile.symm⟩
    cases left : (text.dropWhile isDigit).head? with
    | none => rfl
    | some character =>
        have stops := List.head?_dropWhile_not isDigit text
        rw [left] at stops
        simpa using stops
  · rintro ⟨numeric, stops, rfl⟩
    have every := List.all_eq_true.mp numeric
    rw [Numeral.spanDigits, List.takeWhile_append_of_pos every, List.dropWhile_append_of_pos every]
    cases rest with
    | nil => simp
    | cons character rest => simp_all

theorem someDigits?_eq_some_iff {text digits rest : List Char} :
    someDigits? text = some (digits, rest) ↔ digits ≠ [] ∧ digits.all isDigit = true ∧
      rest.head?.any isDigit = false ∧ text = digits ++ rest := by
  rw [← spanDigits_eq_iff, someDigits?]
  cases Numeral.spanDigits text with
  | mk found left =>
      simp only [Option.ite_none_left_eq_some, List.isEmpty_iff, Option.some.injEq, Prod.mk.injEq]
      constructor
      · rintro ⟨nonempty, rfl, rfl⟩
        exact ⟨nonempty, rfl, rfl⟩
      · rintro ⟨nonempty, rfl, rfl⟩
        exact ⟨nonempty, rfl, rfl⟩

/-!
## Words
-/

theorem exists_of_afterWord? {words : List String} {text rest : List Char}
    (taken : afterWord? words text = some rest) :
    ∃ word ∈ words, text = word.toList ++ rest := by
  obtain ⟨characters, member, here⟩ := List.exists_of_findSome?_eq_some taken
  obtain ⟨word, listed, rfl⟩ := List.mem_map.mp member
  exact ⟨word, listed, after?_eq_some_iff.mp here⟩

theorem afterWord?_eq_none_iff {words : List String} {text : List Char} :
    afterWord? words text = none ↔ ∀ word ∈ words, ¬ word.toList <+: text := by
  simp only [afterWord?, afterAny?, List.findSome?_eq_none_iff, List.mem_map,
    forall_exists_index, and_imp, forall_apply_eq_imp_iff₂]
  refine forall₂_congr fun word _ => ?_
  simp only [Option.eq_none_iff_forall_ne_some, ne_eq, after?_eq_some_iff, List.IsPrefix,
    not_exists, eq_comm (a := text)]

/-- At most one of the words begins a text, since none begins another. -/
def Apart (words : List String) : Prop :=
  ∀ word ∈ words, ∀ other ∈ words, word.toList <+: other.toList → word = other

instance (words : List String) : Decidable (Apart words) :=
  inferInstanceAs (Decidable (∀ _ ∈ _, ∀ _ ∈ _, _))

theorem Apart.eq_of_prefix {words : List String} (apart : Apart words) {word other : String}
    (member : word ∈ words) (listed : other ∈ words) {rest : List Char}
    (begun : word.toList <+: other.toList ++ rest) : word = other := by
  rcases List.prefix_or_prefix_of_prefix begun (List.prefix_append other.toList rest) with
    shorter | longer
  · exact apart word member other listed shorter
  · exact (apart other listed word member longer).symm

theorem afterWord?_of_mem {words : List String} (apart : Apart words) {word : String}
    (member : word ∈ words) (rest : List Char) :
    afterWord? words (word.toList ++ rest) = some rest := by
  cases taken : afterWord? words (word.toList ++ rest) with
  | none => exact absurd (List.prefix_append _ _) (afterWord?_eq_none_iff.mp taken word member)
  | some left =>
      obtain ⟨other, listed, split⟩ := exists_of_afterWord? taken
      obtain rfl := apart.eq_of_prefix listed member (split ▸ List.prefix_append _ left)
      rw [List.append_cancel_left split]

theorem exists_afterOptionalWord (words : List String) (text : List Char) :
    ∃ word ∈ "" :: words, text = word.toList ++ afterOptionalWord words text := by
  cases taken : afterWord? words text with
  | none => exact ⟨"", List.mem_cons_self, by simp [afterOptionalWord, taken]⟩
  | some rest =>
      obtain ⟨word, listed, split⟩ := exists_of_afterWord? taken
      refine ⟨word, List.mem_cons_of_mem _ listed, ?_⟩
      rw [afterOptionalWord, taken, Option.getD_some, split]

/-- An optional word with the blanks behind it, of which either may be missing. -/
theorem exists_optional (words : List String) (text : List Char) :
    ∃ word ∈ "" :: words, ∃ blanks, blanks.all isBlank = true ∧
      text = word.toList ++ (blanks ++ skipBlanks (afterOptionalWord words text)) := by
  obtain ⟨word, known, split⟩ := exists_afterOptionalWord words text
  obtain ⟨blanks, blank, rest⟩ := exists_skipped (afterOptionalWord words text)
  exact ⟨word, known, blanks, blank, rest ▸ split⟩

/-- The first character of a text that is not a blank passes a test. -/
def Begins (test : Char → Bool) (text : List Char) : Prop :=
  (skipBlanks text).head?.any test = true

theorem begins_append_blanks {test : Char → Bool} {blanks text : List Char}
    (blank : blanks.all isBlank = true) : Begins test (blanks ++ text) ↔ Begins test text := by
  rw [Begins, skipBlanks_append blank, Begins]

theorem begins_append_word {test : Char → Bool} {word : List Char}
    (solid : word.head?.any (!isBlank ·) = true) (passes : word.head?.any test = true)
    (rest : List Char) : Begins test (word ++ rest) := by
  have stays : skipBlanks (word ++ rest) = word ++ rest := @skipBlanks_gap [] _ rfl solid rest
  rw [Begins, stays, List.head?_append]
  cases starts : word.head? with
  | none => simp [starts] at passes
  | some first => simpa [starts] using passes

/-- A character that passes a test or begins one of the words. -/
def orBegins (words : List String) (test : Char → Bool) (character : Char) : Bool :=
  test character || words.any (·.toList.head? == some character)

theorem begins_append_optional {words : List String} {word : String} {test : Char → Bool}
    {blanks text : List Char} (member : word ∈ "" :: words)
    (solid : ∀ other ∈ words, other.toList.head?.any (!isBlank ·) = true)
    (blank : blanks.all isBlank = true) (begins : Begins test text) :
    Begins (orBegins words test) (word.toList ++ (blanks ++ text)) := by
  rcases List.mem_cons.mp member with rfl | listed
  · rw [String.toList_empty, List.nil_append, begins_append_blanks blank]
    cases starts : (skipBlanks text).head? with
    | none => simp [Begins, starts] at begins
    | some first =>
        rw [Begins, starts] at begins ⊢
        exact Bool.or_eq_true_iff.mpr (.inl begins)
  · have solid := solid word listed
    refine begins_append_word solid ?_ _
    cases starts : word.toList.head? with
    | none => simp [starts] at solid
    | some first =>
        refine Bool.or_eq_true_iff.mpr (.inr (List.any_eq_true.mpr ⟨word, listed, ?_⟩))
        simp [starts]

/-- An optional word is taken off with the blanks behind it, and so are the blanks if the word is
left out. What follows must not look like the word. -/
theorem skipBlanks_afterOptionalWord {words : List String} {word : String} {test : Char → Bool}
    {blanks text : List Char} (apart : Apart words) (member : word ∈ "" :: words)
    (solid : ∀ other ∈ words, other.toList.head?.any (!isBlank ·) = true)
    (unlike : ∀ other ∈ words, other.toList.head?.any test = false)
    (blank : blanks.all isBlank = true) (begins : Begins test text) :
    skipBlanks (afterOptionalWord words (skipBlanks (word.toList ++ (blanks ++ text)))) =
      skipBlanks text := by
  rcases List.mem_cons.mp member with rfl | listed
  · have untaken : afterWord? words (skipBlanks text) = none := by
      refine afterWord?_eq_none_iff.mpr ?_
      rintro other listed ⟨rest, split⟩
      have solid := solid other listed
      have unlike := unlike other listed
      rw [Begins, ← split, List.head?_append] at begins
      cases starts : other.toList.head? with
      | none => simp [starts] at solid
      | some first => simp [starts] at begins unlike; simp [begins] at unlike
    rw [String.toList_empty, List.nil_append, skipBlanks_append blank, afterOptionalWord, untaken,
      Option.getD_none, skipBlanks_idem]
  · have stays : skipBlanks (word.toList ++ (blanks ++ text)) = word.toList ++ (blanks ++ text) :=
      @skipBlanks_gap [] _ rfl (solid word listed) (blanks ++ text)
    rw [stays, afterOptionalWord, afterWord?_of_mem apart listed, Option.getD_some,
      skipBlanks_append blank]

end MediaSearch.Phrase

import Mathlib.Data.List.DropRight
import MediaSearch.Proofs.Phrase.Steps

/-!
# Texts made of words

Words that are joined with single blanks. What has no blank in it stands inside of one word,
wherever in the text it stands, so that a search for it may go word by word.
-/

set_option autoImplicit false

namespace MediaSearch.Phrase

open MediaSearch.Text

/-- What a search may look for word by word: something with no blank in it. -/
def IsSolid (word : List Char) : Prop :=
  word ≠ [] ∧ ' ' ∉ word

instance (word : List Char) : Decidable (IsSolid word) :=
  inferInstanceAs (Decidable (_ ∧ _))

/-- A text that may follow a word: it is empty or begins with a blank. -/
def StandsApart (text : List Char) : Prop :=
  ∀ character ∈ text.head?, character = ' '

/-- What has no blank in it does not reach over the end of a word. -/
theorem IsSolid.place {word front rest before after : List Char} (solid : IsSolid word)
    (apart : StandsApart rest) (split : front ++ rest = before ++ (word ++ after)) :
    (∃ behind, front = before ++ (word ++ behind) ∧ after = behind ++ rest) ∨
      ∃ between, rest = between ++ (word ++ after) ∧ before = front ++ between := by
  rcases List.append_eq_append_iff.mp split with ⟨between, rfl, rest_eq⟩ | ⟨left, rfl, inside⟩
  · exact .inr ⟨between, rest_eq, rfl⟩
  · rcases List.append_eq_append_iff.mp inside with ⟨behind, rfl, rfl⟩ | ⟨reach, word_eq, rfl⟩
    · exact .inl ⟨behind, rfl, rfl⟩
    · cases reach with
      | nil =>
          refine .inl ⟨[], ?_, rfl⟩
          rw [List.append_nil] at word_eq
          rw [word_eq, List.append_nil]
      | cons character reach =>
          obtain rfl : character = ' ' := apart character rfl
          exact absurd (word_eq ▸ List.mem_append_cons_self) solid.2

/-!
## Joined words
-/

/-- Words with a blank before each. -/
def trailing (words : List (List Char)) : List Char :=
  words.flatMap (' ' :: ·)

def joined (words : List (List Char)) : List Char :=
  [' '].intercalate words

theorem trailing_cons (word : List Char) (words : List (List Char)) :
    trailing (word :: words) = ' ' :: (word ++ trailing words) := rfl

theorem trailing_append (front back : List (List Char)) :
    trailing (front ++ back) = trailing front ++ trailing back :=
  List.flatMap_append

theorem standsApart_trailing (words : List (List Char)) : StandsApart (trailing words) := by
  cases words with
  | nil => rintro _ ⟨⟩
  | cons word words => rintro _ ⟨⟩; rfl

theorem joined_cons (word : List Char) (words : List (List Char)) :
    joined (word :: words) = word ++ trailing words := by
  induction words generalizing word with
  | nil => simp [joined, trailing, List.intercalate]
  | cons next words ih =>
      have step : joined (word :: next :: words) = word ++ (' ' :: joined (next :: words)) := by
        simp [joined, List.intercalate]
      rw [step, ih]
      rfl

theorem joined_append {front : List (List Char)} (nonempty : front ≠ []) (back : List (List Char)) :
    joined (front ++ back) = joined front ++ trailing back := by
  cases front with
  | nil => exact absurd rfl nonempty
  | cons word front =>
      rw [List.cons_append, joined_cons, joined_cons, trailing_append, List.append_assoc]

theorem mem_joined {character : Char} {words : List (List Char)}
    (member : character ∈ joined words) : character = ' ' ∨ ∃ word ∈ words, character ∈ word := by
  cases words with
  | nil => cases member
  | cons word words =>
      rw [joined_cons] at member
      rcases List.mem_append.mp member with here | later
      · exact .inr ⟨word, List.mem_cons_self, here⟩
      · obtain ⟨other, listed, inside⟩ := List.mem_flatMap.mp later
        rcases List.mem_cons.mp inside with blank | inside
        · exact .inl blank
        · exact .inr ⟨other, List.mem_cons_of_mem _ listed, inside⟩

theorem infix_joined_of_mem {word : List Char} {words : List (List Char)} (member : word ∈ words) :
    word <:+: joined words := by
  obtain ⟨front, back, rfl⟩ := List.append_of_mem member
  cases front with
  | nil =>
      rw [List.nil_append, joined_cons]
      exact (List.prefix_append _ _).isInfix
  | cons first front =>
      rw [joined_append (List.cons_ne_nil _ _), trailing_cons]
      exact ⟨joined (first :: front) ++ [' '], trailing back, by simp⟩

/-- What has no blank in it and stands in joined words stands inside of one of them. What surrounds
it there surrounds it in the text, too. -/
theorem IsSolid.exists_word {part : List Char} (solid : IsSolid part) {words : List (List Char)}
    {before after : List Char} (split : joined words = before ++ (part ++ after)) :
    ∃ word ∈ words, ∃ front behind, word = front ++ (part ++ behind) ∧ front <:+ before ∧
      behind <+: after := by
  induction words generalizing before with
  | nil =>
      obtain ⟨_, rest⟩ := List.append_eq_nil_iff.mp split.symm
      exact absurd (List.append_eq_nil_iff.mp rest).1 solid.1
  | cons word words ih =>
      rw [joined_cons] at split
      rcases solid.place (standsApart_trailing words) split with
        ⟨behind, rfl, rfl⟩ | ⟨between, rest, rfl⟩
      · exact ⟨_, List.mem_cons_self, before, behind, rfl, List.suffix_rfl, List.prefix_append _ _⟩
      · cases words with
        | nil =>
            obtain ⟨_, rest⟩ := List.append_eq_nil_iff.mp rest.symm
            exact absurd (List.append_eq_nil_iff.mp rest).1 solid.1
        | cons next words =>
            have spaced : ' ' :: joined (next :: words) = between ++ (part ++ after) := by
              rw [← rest, joined_cons]
              rfl
            cases between with
            | nil =>
                -- The blank before the next word is no part of what stands there.
                cases part with
                | nil => exact absurd rfl solid.1
                | cons character part =>
                    obtain ⟨rfl, _⟩ := List.cons.inj spaced
                    exact absurd List.mem_cons_self solid.2
            | cons character between =>
                obtain ⟨_, split⟩ := List.cons.inj spaced
                obtain ⟨inside, member, front, behind, place, leads, follows⟩ := ih split
                refine ⟨inside, List.mem_cons_of_mem _ member, front, behind, place, ?_, follows⟩
                exact leads.trans ((List.suffix_cons _ _).trans (List.suffix_append _ _))

/-!
## Vocabularies
-/

/-- A word of digits, which may have points among them. -/
def IsNumeric (word : List Char) : Prop :=
  ∀ character ∈ word, isDigit character = true ∨ character = '.'

/-- Every word is numeric or one of a vocabulary. -/
def DrawnFrom (vocabulary : List String) (words : List (List Char)) : Prop :=
  ∀ word ∈ words, IsNumeric word ∨ ∃ entry ∈ vocabulary, word = entry.toList

section

variable {vocabulary : List String} {words : List (List Char)}

theorem drawnFrom_nil (vocabulary : List String) : DrawnFrom vocabulary [] :=
  fun _ absent => absurd absent List.not_mem_nil

theorem DrawnFrom.cons_numeric {word : List Char} (rest : DrawnFrom vocabulary words)
    (numeric : IsNumeric word) : DrawnFrom vocabulary (word :: words) :=
  List.forall_mem_cons.mpr ⟨.inl numeric, rest⟩

theorem DrawnFrom.cons_entry {entry : String} (rest : DrawnFrom vocabulary words)
    (known : entry ∈ vocabulary) : DrawnFrom vocabulary (entry.toList :: words) :=
  List.forall_mem_cons.mpr ⟨.inr ⟨entry, known, rfl⟩, rest⟩

theorem DrawnFrom.mono {other : List String} (drawn : DrawnFrom vocabulary words)
    (more : vocabulary ⊆ other) : DrawnFrom other words :=
  fun word member => (drawn word member).imp_right fun ⟨entry, known, same⟩ =>
    ⟨entry, more known, same⟩

theorem DrawnFrom.append {other : List String} {front back : List (List Char)}
    (first : DrawnFrom vocabulary front) (second : DrawnFrom other back) :
    DrawnFrom (vocabulary ++ other) (front ++ back) :=
  List.forall_mem_append.mpr ⟨first.mono (List.subset_append_left _ _),
    second.mono (List.subset_append_right _ _)⟩

end

/-- Something that has a character which is neither a digit nor a point. -/
def hasLetter (part : List Char) : Bool :=
  part.any fun character => !isDigit character && character != '.'

/-- A part of a word that neither a word of a vocabulary nor a numeral has. -/
def Unsaid (vocabulary : List String) (part : List Char) : Prop :=
  IsSolid part ∧ hasLetter part = true ∧ ∀ entry ∈ vocabulary, occursIn part entry.toList = false

instance (vocabulary : List String) (part : List Char) : Decidable (Unsaid vocabulary part) :=
  inferInstanceAs (Decidable (_ ∧ _ ∧ _))

theorem not_infix_of_isNumeric {word part : List Char} (numeric : IsNumeric word)
    (letter : hasLetter part = true) : ¬ part <:+: word := by
  intro inside
  obtain ⟨character, member, other⟩ := List.any_eq_true.mp letter
  rcases numeric character (inside.subset member) with digit | rfl
  · simp [digit] at other
  · simp at other

theorem Unsaid.not_infix_joined {vocabulary : List String} {part : List Char}
    (unsaid : Unsaid vocabulary part) {words : List (List Char)}
    (drawn : DrawnFrom vocabulary words) : ¬ part <:+: joined words := by
  obtain ⟨solid, letter, apart⟩ := unsaid
  rintro ⟨before, after, place⟩
  rw [List.append_assoc] at place
  obtain ⟨word, member, front, behind, rfl, _⟩ := solid.exists_word place.symm
  have inside : part <:+: front ++ (part ++ behind) := ⟨front, behind, List.append_assoc ..⟩
  rcases drawn _ member with numeric | ⟨entry, known, same⟩
  · exact not_infix_of_isNumeric numeric letter inside
  · rw [same, ← occursIn_iff, apart entry known] at inside
    cases inside

/-!
## Mentions
-/

def firstWord (keyword : String) : List Char :=
  keyword.toList.takeWhile (· != ' ')

def lastWord (keyword : String) : List Char :=
  keyword.toList.rtakeWhile (· != ' ')

/-- A keyword of which the first or the last word is unsaid. -/
def Unspoken (vocabulary : List String) (keyword : String) : Prop :=
  Unsaid vocabulary (firstWord keyword) ∨ Unsaid vocabulary (lastWord keyword)

instance (vocabulary : List String) (keyword : String) : Decidable (Unspoken vocabulary keyword) :=
  inferInstanceAs (Decidable (_ ∨ _))

theorem Unspoken.not_infix_joined {vocabulary : List String} {keyword : String}
    (unspoken : Unspoken vocabulary keyword) {words : List (List Char)}
    (drawn : DrawnFrom vocabulary words) : ¬ keyword.toList <:+: joined words := by
  intro inside
  rcases unspoken with unsaid | unsaid
  · exact unsaid.not_infix_joined drawn ((List.takeWhile_prefix _).isInfix.trans inside)
  · exact unsaid.not_infix_joined drawn ((List.rtakeWhile_suffix _ _).isInfix.trans inside)

theorem Unspoken.mentions_joined {vocabulary : List String} {keyword : String}
    (unspoken : Unspoken vocabulary keyword) {words : List (List Char)}
    (drawn : DrawnFrom vocabulary words) : mentions (joined words) keyword = false :=
  Bool.eq_false_iff.mpr fun mentioned =>
    unspoken.not_infix_joined drawn (occursIn_iff.mp mentioned)

/-- Joined words mention what has no blank in it if one of them does. -/
theorem mentions_joined {keyword : String} (solid : IsSolid keyword.toList)
    (words : List (List Char)) :
    mentions (joined words) keyword = words.any (mentions · keyword) := by
  refine Bool.eq_iff_iff.mpr (occursIn_iff.trans (Iff.trans ⟨?_, ?_⟩ List.any_eq_true.symm))
  · rintro ⟨before, after, place⟩
    rw [List.append_assoc] at place
    obtain ⟨word, member, front, behind, rfl, _⟩ := solid.exists_word place.symm
    exact ⟨_, member, occursIn_iff.mpr ⟨front, behind, List.append_assoc ..⟩⟩
  · rintro ⟨word, member, mentioned⟩
    exact (occursIn_iff.mp mentioned).trans (infix_joined_of_mem member)

/-- What is unsaid before and behind some of the words is mentioned if one of them does. -/
theorem mentions_joined_of_unsaid {vocabulary : List String} {keyword : String}
    (unsaid : Unsaid vocabulary keyword.toList) {words front kept back : List (List Char)}
    (split : words = front ++ (kept ++ back)) (drawn : DrawnFrom vocabulary (front ++ back)) :
    mentions (joined words) keyword = kept.any (mentions · keyword) := by
  have elsewhere : (front ++ back).any (mentions · keyword) = false := by
    rw [← mentions_joined unsaid.1]
    exact Bool.eq_false_iff.mpr fun mentioned =>
      unsaid.not_infix_joined drawn (occursIn_iff.mp mentioned)
  rw [List.any_append, Bool.or_eq_false_iff] at elsewhere
  rw [mentions_joined unsaid.1, split, List.any_append, List.any_append, elsewhere.1, elsewhere.2,
    Bool.false_or, Bool.or_false]

/-!
## Searches
-/

section Search

variable {α : Type} {recognise : List Char → Option α} {keywords vocabulary : List String}

theorem first_of_eq_some {text : List Char} {value : α} (here : recognise text = some value) :
    first recognise text = some value := by
  cases text with
  | nil => exact here
  | cons character text => rw [first, here]

theorem first_cons_of_eq_none {character : Char} {text : List Char}
    (nothing : recognise (character :: text) = none) :
    first recognise (character :: text) = first recognise text := by
  rw [first, nothing]

/-- A search finds nothing among words if what it finds needs a keyword that is not among them. -/
theorem first_joined_eq_none
    (needs : ∀ text value, recognise text = some value →
      ∃ keyword ∈ keywords, keyword.toList <:+: text)
    (unspoken : ∀ keyword ∈ keywords, Unspoken vocabulary keyword) {words : List (List Char)}
    (drawn : DrawnFrom vocabulary words) : first recognise (joined words) = none := by
  by_contra hit
  obtain ⟨before, after, split, found⟩ :=
    first_isSome_iff.mp (Option.isSome_iff_ne_none.mpr hit)
  obtain ⟨value, here⟩ := Option.isSome_iff_exists.mp found
  obtain ⟨keyword, listed, inside⟩ := needs after value here
  refine (unspoken keyword listed).not_infix_joined drawn ?_
  exact split ▸ inside.trans (List.suffix_append before after).isInfix

/-- The recogniser makes something only of texts that begin with one of the keywords. -/
def Awaits (recognise : List Char → Option α) (keywords : List String) : Prop :=
  ∀ text value, recognise text = some value → ∃ keyword ∈ keywords, keyword.toList <+: text

theorem Awaits.first_joined_eq_none (awaits : Awaits recognise keywords)
    (unspoken : ∀ keyword ∈ keywords, Unspoken vocabulary keyword) {words : List (List Char)}
    (drawn : DrawnFrom vocabulary words) : first recognise (joined words) = none := by
  refine Phrase.first_joined_eq_none (fun text value read => ?_) unspoken drawn
  obtain ⟨keyword, listed, begun⟩ := awaits text value read
  exact ⟨keyword, listed, begun.isInfix⟩

/-- A search passes over words that its keywords are not among. -/
theorem Awaits.first_joined (awaits : Awaits recognise keywords)
    (unsaid : ∀ keyword ∈ keywords, Unsaid vocabulary keyword.toList) {words : List (List Char)}
    (drawn : DrawnFrom vocabulary words) (rest : List Char) :
    first recognise (joined words ++ ' ' :: rest) = first recognise rest := by
  have clean : ∀ keyword ∈ keywords, ¬ keyword.toList <:+: joined words :=
    fun keyword listed => (unsaid keyword listed).not_infix_joined drawn
  generalize joined words = front at clean
  induction front with
  | nil =>
      cases here : recognise (' ' :: rest) with
      | none => exact first_cons_of_eq_none here
      | some value =>
          obtain ⟨keyword, listed, behind, place⟩ := awaits _ value here
          have solid := (unsaid keyword listed).1
          cases spelled : keyword.toList with
          | nil => exact absurd spelled solid.1
          | cons character characters =>
              rw [spelled] at place solid
              obtain ⟨rfl, _⟩ := List.cons.inj place
              exact absurd List.mem_cons_self solid.2
  | cons character front ih =>
      have later := ih fun keyword listed inside =>
        clean keyword listed (inside.trans (List.suffix_cons character front).isInfix)
      cases here : recognise (character :: (front ++ ' ' :: rest)) with
      | none => exact (first_cons_of_eq_none here).trans later
      | some value =>
          obtain ⟨keyword, listed, behind, place⟩ := awaits _ value here
          have apart : StandsApart (' ' :: rest) := by
            rintro _ ⟨⟩
            rfl
          have split : character :: front ++ ' ' :: rest = [] ++ (keyword.toList ++ behind) :=
            place.symm
          rcases (unsaid keyword listed).1.place apart split with
            ⟨left, front_eq, _⟩ | ⟨between, _, impossible⟩
          · exact absurd ⟨[], left, front_eq.symm⟩ (clean keyword listed)
          · cases impossible

end Search

end MediaSearch.Phrase

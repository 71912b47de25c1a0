import Mathlib.Data.List.Nodup
import MediaSearch.Proofs.Command.Options
import MediaSearch.Proofs.Phrase.LetterCase

/-!
# Keys of options

Camel case loses nothing of a name whose parts begin with letters: the name is read back at the
capitals. So options of different names have different keys, and no option of a structured search
takes the place of another.
-/

set_option autoImplicit false

namespace MediaSearch

namespace Text

/-- A lowercase basic letter or a basic digit. -/
def IsSmall (character : Char) : Prop :=
  character.isLower = true ∨ character.isDigit = true

instance (character : Char) : Decidable (IsSmall character) :=
  inferInstanceAs (Decidable (_ ∨ _))

/-- A lowercase basic letter, and behind it such letters and basic digits. -/
def IsNamePart : List Char → Prop
  | [] => False
  | first :: rest => first.isLower = true ∧ ∀ character ∈ rest, IsSmall character

-- Named by hand: what is found for a property of all members may go through all characters instead.
instance decidableIsNamePart : (part : List Char) → Decidable (IsNamePart part)
  | [] => instDecidableFalse
  | _ :: rest => @instDecidableAnd _ _ inferInstance (List.decidableBAll _ rest)

/-- One or more parts, joined by single underscores. -/
inductive IsSnakeCase : List Char → Prop where
  | part {part : List Char} : IsNamePart part → IsSnakeCase part
  | join {part rest : List Char} :
      IsNamePart part → IsSnakeCase rest → IsSnakeCase (part ++ '_' :: rest)

/-- A name with each capital written as an underscore and its lowercase letter. -/
def snakeCase (name : List Char) : List Char :=
  name.flatMap fun character =>
    if character.isUpper then ['_', character.toLower] else [character]

/-!
## Letters and digits
-/

/-- What holds of every character below 128 is found by going through them. -/
theorem of_toNat_lt_128 {P : Char → Prop} (each : ∀ code < 128, P (Char.ofNat code))
    {character : Char} (basic : character.toNat < 128) : P character := by
  rw [← Char.ofNat_toNat character]
  exact each _ basic

theorem IsSmall.toNat_lt {character : Char} (small : IsSmall character) :
    character.toNat < 128 := by
  have bounded : character.val ≤ 'z'.val := by
    rcases small with lower | digit
    · exact of_decide_eq_true (Bool.and_eq_true_iff.mp lower).2
    · exact UInt32.le_trans (of_decide_eq_true (Bool.and_eq_true_iff.mp digit).2) (by decide)
  exact Nat.lt_of_le_of_lt (UInt32.le_iff_toNat_le.mp bounded) (by decide)

theorem IsSmall.isUpper_eq_false {character : Char} (small : IsSmall character) :
    character.isUpper = false :=
  of_toNat_lt_128 (P := fun character => IsSmall character → character.isUpper = false)
    (by decide) small.toNat_lt small

theorem IsSmall.toLower_eq {character : Char} (small : IsSmall character) :
    character.toLower = character :=
  of_toNat_lt_128 (P := fun character => IsSmall character → character.toLower = character)
    (by decide) small.toNat_lt small

/-- The capital of a lowercase letter is one, and has that letter for its lowercase letter. -/
theorem capital_of_isLower {letter : Char} (lower : letter.isLower = true) :
    letter.toUpper.isUpper = true ∧ letter.toUpper.toLower = letter :=
  of_toNat_lt_128
    (P := fun letter => letter.isLower = true →
      letter.toUpper.isUpper = true ∧ letter.toUpper.toLower = letter)
    (by decide) (IsSmall.toNat_lt (.inl lower)) lower

theorem titleLetter_of_isLower {letter : Char} (lower : letter.isLower = true) :
    titleLetter letter = [letter.toUpper] := by
  have high : ∀ sequence ∈ titleSequences, 128 ≤ sequence.1 := by decide +kernel
  have low : letter.toNat < 128 := IsSmall.toNat_lt (.inl lower)
  have unlisted : titleSequences.lookup letter.toNat = none := by
    refine List.lookup_eq_none_iff.mpr fun sequence listed => ?_
    rw [bne_iff_ne]
    exact Nat.ne_of_lt (Nat.lt_of_lt_of_le low (high sequence listed))
  rw [titleLetter, unlisted]
  exact if_pos low

/-!
## Parts of names
-/

theorem snakeCase_append (front rest : List Char) :
    snakeCase (front ++ rest) = snakeCase front ++ snakeCase rest :=
  List.flatMap_append

theorem snakeCase_of_small {text : List Char}
    (small : ∀ character ∈ text, IsSmall character) : snakeCase text = text := by
  induction text with
  | nil => rfl
  | cons character text ih =>
      obtain ⟨here, rest⟩ := List.forall_mem_cons.mp small
      rw [snakeCase, List.flatMap_cons, here.isUpper_eq_false]
      exact congrArg (character :: ·) (ih rest)

namespace IsNamePart

variable {part : List Char}

theorem small (isPart : IsNamePart part) : ∀ character ∈ part, IsSmall character := by
  cases part with
  | nil => exact isPart.elim
  | cons first rest => exact List.forall_mem_cons.mpr ⟨.inl isPart.1, isPart.2⟩

theorem underscore_not_mem (isPart : IsNamePart part) : '_' ∉ part :=
  fun member => absurd (isPart.small '_' member) (by decide)

/-- Of a part only the first letter changes, since the others are small already. -/
theorem capitalize_eq {first : Char} {rest : List Char} (isPart : IsNamePart (first :: rest)) :
    capitalize (first :: rest) = first.toUpper :: rest := by
  have plain : ∀ character ∈ rest, Phrase.IsPlain character :=
    fun character member => .inl (isPart.2 character member).toNat_lt
  have same : rest.map Char.toLower = rest :=
    (List.map_congr_left fun character member => (isPart.2 character member).toLower_eq).trans
      (List.map_id _)
  rw [capitalize, titleLetter_of_isLower isPart.1, Phrase.lowerAfter_of_isPlain _ plain, same]
  rfl

theorem snakeCase_capitalize (isPart : IsNamePart part) :
    snakeCase (capitalize part) = '_' :: part := by
  cases part with
  | nil => exact isPart.elim
  | cons first rest =>
      obtain ⟨capital, back⟩ := capital_of_isLower isPart.1
      rw [isPart.capitalize_eq, snakeCase, List.flatMap_cons, if_pos capital, back, ← snakeCase,
        snakeCase_of_small isPart.2]
      rfl

end IsNamePart

namespace IsSnakeCase

variable {name : List Char}

theorem intercalate {all : List (List Char)} (nonempty : all ≠ [])
    (each : ∀ part ∈ all, IsNamePart part) : IsSnakeCase (['_'].intercalate all) := by
  induction all with
  | nil => exact absurd rfl nonempty
  | cons first rest ih =>
      obtain ⟨isPart, others⟩ := List.forall_mem_cons.mp each
      cases rest with
      | nil =>
          rw [List.intercalate_singleton]
          exact .part isPart
      | cons second rest =>
          rw [List.intercalate_cons_cons, List.append_assoc, List.singleton_append]
          exact .join isPart (ih (List.cons_ne_nil second rest) others)

theorem iff_parts : IsSnakeCase name ↔ ∀ part ∈ parts '_' name, IsNamePart part := by
  constructor
  · intro snake
    induction snake with
    | part isPart =>
        rw [parts_of_not_mem isPart.underscore_not_mem]
        exact List.forall_mem_singleton.mpr isPart
    | join isPart _ ih =>
        rw [parts_append_of_not_mem isPart.underscore_not_mem]
        exact List.forall_mem_cons.mpr ⟨isPart, ih⟩
  · intro each
    rw [← intercalate_parts '_' name]
    exact intercalate (parts_ne_nil '_' name) each

instance decidable (name : List Char) : Decidable (IsSnakeCase name) :=
  decidable_of_iff' _ iff_parts

/-- Where all parts are capitalised, the first too, an underscore is read in front as well. -/
theorem snakeCase_flatMap_capitalize (snake : IsSnakeCase name) :
    snakeCase ((parts '_' name).flatMap capitalize) = '_' :: name := by
  induction snake with
  | part isPart =>
      rw [parts_of_not_mem isPart.underscore_not_mem, List.flatMap_singleton,
        isPart.snakeCase_capitalize]
  | join isPart _ ih =>
      rw [parts_append_of_not_mem isPart.underscore_not_mem, List.flatMap_cons, snakeCase_append,
        isPart.snakeCase_capitalize, ih, List.cons_append]

theorem snakeCase_camelCase (snake : IsSnakeCase name) : snakeCase (camelCase name) = name := by
  unfold camelCase
  cases snake with
  | part isPart =>
      rw [parts_of_not_mem isPart.underscore_not_mem]
      exact (snakeCase_append _ _).trans ((List.append_nil _).trans (snakeCase_of_small isPart.small))
  | join isPart others =>
      rw [parts_append_of_not_mem isPart.underscore_not_mem]
      dsimp only
      rw [snakeCase_append, snakeCase_of_small isPart.small, others.snakeCase_flatMap_capitalize]

theorem camelCase_inj {other : List Char} (snake : IsSnakeCase name) (otherSnake : IsSnakeCase other)
    (same : camelCase name = camelCase other) : name = other := by
  rw [← snake.snakeCase_camelCase, same, otherSnake.snakeCase_camelCase]

end IsSnakeCase

end Text

/-!
## Options and keys
-/

namespace Command

open MediaSearch.Filter (keyOf)

theorem isSnakeCase_of_mem_options {command : Name} {option : OptionSpec}
    (member : option ∈ command.options) : Text.IsSnakeCase option.name.toList := by
  have all : ∀ command ∈ Name.all, ∀ option ∈ command.options,
      Text.IsSnakeCase option.name.toList := by
    decide +kernel
  exact all command (by cases command <;> decide) option member

theorem keyOf_inj {name other : String} (snake : Text.IsSnakeCase name.toList)
    (otherSnake : Text.IsSnakeCase other.toList) (same : keyOf name = keyOf other) :
    name = other :=
  String.toList_inj.mp (snake.camelCase_inj otherSnake (String.ofList_inj.mp same))

/-- Values under names of such parts, no name twice, have keys of which none stands twice. -/
theorem nodup_keys_filterOf {values : List NamedScalar} (distinct : (values.map (·.1)).Nodup)
    (snake : ∀ named ∈ values, Text.IsSnakeCase named.1.toList) :
    ((filterOf values).map (·.1)).Nodup := by
  have kept : ((values.filter fun named => isSet named.2).map (·.1)).Nodup :=
    (List.filter_sublist.map _).nodup distinct
  have keys : (filterOf values).map (·.1) =
      ((values.filter fun named => isSet named.2).map (·.1)).map keyOf := by
    rw [filterOf, List.map_map, List.map_map]
    rfl
  rw [keys]
  refine kept.map_on fun name member other otherMember same => ?_
  obtain ⟨named, present, rfl⟩ := List.mem_map.mp member
  obtain ⟨otherNamed, otherPresent, rfl⟩ := List.mem_map.mp otherMember
  exact keyOf_inj (snake named (List.mem_of_mem_filter present))
    (snake otherNamed (List.mem_of_mem_filter otherPresent)) same

theorem eq_of_keyOf_option {command : Name} {option other : OptionSpec}
    (member : option ∈ command.options) (otherMember : other ∈ command.options)
    (same : keyOf option.name = keyOf other.name) : option = other :=
  List.inj_on_of_nodup_map (nodup_optionNames command) member otherMember
    (keyOf_inj (isSnakeCase_of_mem_options member) (isSnakeCase_of_mem_options otherMember) same)

theorem nodup_keys_of_ofWords {read : Reader} (honours : read.HonoursOptions)
    {words : List String} {filter : Entries}
    (understood : ofWords read .advanced words = .ok (.advanced filter)) :
    (filter.map (·.1)).Nodup := by
  obtain ⟨values, -, made⟩ := assigned_of_ofWords honours understood
  obtain rfl := Command.advanced.inj made
  have names : (assignment values).map (·.1) = (Name.options .advanced).map (·.name) := by
    rw [assignment, List.map_map, Name.options, ← map_option_all, List.map_map]
    rfl
  apply nodup_keys_filterOf
  · rw [names]
    exact nodup_optionNames .advanced
  · intro named member
    have listed : named.1 ∈ (Name.options .advanced).map (·.name) :=
      names ▸ List.mem_map_of_mem member
    obtain ⟨option, present, same⟩ := List.mem_map.mp listed
    rw [← same]
    exact isSnakeCase_of_mem_options present

/-- Camel case loses no name of parts that begin with lowercase letters, and what capitals stand for
gives the name back. So no two such names have one key, which holds of the options of every command;
in the filter that such names make no value displaces another; and words that are understood make
a filter in which no key stands twice, whoever reads them, if options are honoured. -/
theorem options_have_own_keys :
    (∀ name, Text.IsSnakeCase name → Text.snakeCase (Text.camelCase name) = name) ∧
    (∀ name other, Text.IsSnakeCase name → Text.IsSnakeCase other →
      Text.camelCase name = Text.camelCase other → name = other) ∧
    (∀ command : Name, ∀ option ∈ command.options, ∀ other ∈ command.options,
      keyOf option.name = keyOf other.name → option = other) ∧
    (∀ values : List NamedScalar, (∀ named ∈ values, Text.IsSnakeCase named.1.toList) →
      (values.map (·.1)).Nodup → Keyed.ofList (filterOf values) = filterOf values) ∧
    ∀ read : Reader, read.HonoursOptions →
      ∀ words filter, ofWords read .advanced words = .ok (.advanced filter) →
        (filter.map (·.1)).Nodup := by
  refine ⟨fun name snake => snake.snakeCase_camelCase,
    fun name other snake otherSnake => snake.camelCase_inj otherSnake,
    fun command option member other otherMember => eq_of_keyOf_option member otherMember,
    fun values snake distinct => ?_,
    fun read honours words filter => nodup_keys_of_ofWords honours⟩
  exact Keyed.ofList_of_nodup (nodup_keys_filterOf distinct snake)

/-- Parts that begin with digits would be lost. -/
example : Text.camelCase "top_250".toList = Text.camelCase "top250".toList := by decide

def crowdedWords : List String :=
  ["--type", "movie", "--min-duration", "0", "--in-progress", "--added-within", "7"]

def crowdedFilter : Entries :=
  [("type", .text "movie"), ("inProgress", .bool true), ("minDuration", .int 0),
    ("addedWithin", .int 7)]

/-- Values of an option that there is and of one that there is not. -/
def crowdedValues : List NamedScalar :=
  [("added_within", .int 7), ("audio_language", .text "fr")]

theorem options_have_own_keys_crowded :
    Text.snakeCase (Text.camelCase "added_within".toList) = "added_within".toList ∧
    Text.camelCase "min_rating".toList ≠ Text.camelCase "max_rating".toList ∧
    Keyed.ofList (filterOf crowdedValues) = filterOf crowdedValues ∧
    readWords.HonoursOptions ∧
    ofWords readWords .advanced crowdedWords = .ok (.advanced crowdedFilter) ∧
    (crowdedFilter.map (·.1)).Nodup := by
  have added : Text.IsSnakeCase "added_within".toList := by decide +kernel
  have least : Text.IsSnakeCase "min_rating".toList := by decide +kernel
  have greatest : Text.IsSnakeCase "max_rating".toList := by decide +kernel
  have language : Text.IsSnakeCase "audio_language".toList := by decide +kernel
  have understood : ofWords readWords .advanced crowdedWords = .ok (.advanced crowdedFilter) := rfl
  obtain ⟨back, inj, -, kept, distinct⟩ := options_have_own_keys
  refine ⟨back _ added, fun same => ?_, kept crowdedValues ?_ (by decide), readWords_honoursOptions,
    understood, distinct _ readWords_honoursOptions _ _ understood⟩
  · exact absurd (inj _ _ least greatest same) (by decide)
  · exact List.forall_mem_cons.mpr ⟨added, List.forall_mem_singleton.mpr language⟩

end Command

end MediaSearch

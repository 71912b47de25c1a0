import MediaSearch.Json
import MediaSearch.Proofs.Json.Numerals
import MediaSearch.Proofs.Json.Unambiguous

/-!
# Documents are JSON

The document of a value is JSON and denotes that value, as long as the value holds no infinity and
nothing that is not a number. If it does, its document is no JSON at all.
-/

set_option autoImplicit false

namespace MediaSearch

/-- Values that documents are made of: there are no time stamps, and the names in an object are
distinct. -/
inductive Value.IsData : Value → Prop where
  | null : IsData .null
  | bool (value : Bool) : IsData (.bool value)
  | int (value : Int) : IsData (.int value)
  | real (value : Binary64) : IsData (.real value)
  | text (value : String) : IsData (.text value)
  | list {items : List Value} : (∀ item ∈ items, IsData item) → IsData (.list items)
  | object {entries : Entries} : (entries.map (·.1)).Nodup →
      (∀ entry ∈ entries, IsData entry.2) → IsData (.object entries)

/-- A floating point number stands somewhere in a value. -/
inductive Value.Holds (number : Binary64) : Value → Prop where
  | here : Holds number (.real number)
  | item {items : List Value} {item : Value} :
      item ∈ items → Holds number item → Holds number (.list items)
  | entry {entries : Entries} {entry : String × Value} :
      entry ∈ entries → Holds number entry.2 → Holds number (.object entries)

def Value.AllFinite (value : Value) : Prop :=
  ∀ number, value.Holds number → number.IsFinite

theorem Value.allFinite_null : Value.null.AllFinite :=
  fun _ held => nomatch held

theorem Value.allFinite_bool (value : Bool) : (Value.bool value).AllFinite :=
  fun _ held => nomatch held

theorem Value.allFinite_int (value : Int) : (Value.int value).AllFinite :=
  fun _ held => nomatch held

theorem Value.allFinite_text (value : String) : (Value.text value).AllFinite :=
  fun _ held => nomatch held

theorem Value.allFinite_real_iff {number : Binary64} :
    (Value.real number).AllFinite ↔ number.IsFinite := by
  constructor
  · exact fun finite => finite number .here
  · rintro finite _ ⟨⟩
    exact finite

theorem Value.allFinite_list_iff {items : List Value} :
    (Value.list items).AllFinite ↔ ∀ item ∈ items, item.AllFinite := by
  constructor
  · exact fun finite item member number held => finite number (.item member held)
  · rintro finite number (_ | ⟨member, held⟩)
    exact finite _ member number held

theorem Value.allFinite_object_iff {entries : Entries} :
    (Value.object entries).AllFinite ↔ ∀ entry ∈ entries, entry.2.AllFinite := by
  constructor
  · exact fun finite entry member number held => finite number (.entry member held)
  · rintro finite number (_ | _ | ⟨member, held⟩)
    exact finite _ member number held

namespace Json

open MediaSearch.Text (Apart)

theorem members_eq_map (depth : Nat) (items : List Value) :
    members depth items = items.map (document (depth + 1)) := by
  induction items with
  | nil => rfl
  | cons item items ih => rw [members, ih, List.map_cons]

/-- An entry of an object, with its name in front. -/
def entryText (depth : Nat) (entry : String × Value) : List Char :=
  string entry.1 ++ ':' :: ' ' :: document depth entry.2

theorem fields_eq_map (depth : Nat) (entries : Entries) :
    fields depth entries = entries.map (entryText (depth + 1)) := by
  induction entries with
  | nil => rfl
  | cons entry entries ih => rw [fields, ih, List.map_cons, entryText]

/-!
## Texts
-/

theorem codeUnit_hexDigits {code : Nat} (control : code < 32) (rest : List Char) :
    CodeUnit (Text.hexDigits 4 code ++ rest) code rest := by
  have digits : ∀ code < 32, (Text.hexDigits 4 code).length = 4 ∧
      hexValue? (Text.hexDigits 4 code) = some code := by decide
  exact ⟨_, (digits code control).1, (digits code control).2, rfl⟩

theorem letter_escaped (character : Char) (rest : List Char) :
    Letter (escaped character ++ rest) character rest := by
  have ofCode {code : Nat} (same : character.toNat = code) : character = Char.ofNat code := by
    rw [← same, Char.ofNat_toNat]
  unfold escaped
  simp only [Bool.or_eq_true, decide_eq_true_eq]
  split_ifs with marked line ret tab back feed control
  · rcases marked with rfl | rfl
    · exact .escape (by decide)
    · exact .escape (by decide)
  · exact line ▸ .escape (by decide)
  · exact ret ▸ .escape (by decide)
  · exact tab ▸ .escape (by decide)
  · exact ofCode back ▸ .escape (by decide)
  · exact ofCode feed ▸ .escape (by decide)
  · exact .code (codeUnit_hexDigits control rest)
  · exact .plain (Nat.not_lt.mp control) (fun quote => marked (.inl quote))
      (fun backslash => marked (.inr backslash))

theorem letters_escaped (characters rest : List Char) :
    Letters (characters.flatMap escaped ++ '"' :: rest) characters rest := by
  induction characters with
  | nil => exact .done
  | cons character characters ih =>
      rw [List.flatMap_cons, List.append_assoc]
      exact .letter (letter_escaped character _) ih

theorem string_append (text : String) (rest : List Char) :
    string text ++ rest = '"' :: (text.toList.flatMap escaped ++ '"' :: rest) := by
  simp [string]

/-!
## Lines of a block
-/

theorem isGap_of_mem_nil : ∀ character ∈ ([] : List Char), isGap character = true :=
  List.forall_mem_nil _

theorem isGap_of_mem_newLine {depth : Nat} : ∀ character ∈ newLine depth, isGap character = true := by
  intro character member
  rcases List.mem_cons.mp member with rfl | blank
  · rfl
  · rw [List.eq_of_mem_replicate blank]
    rfl

/-- The lines of a block from the first one on, with what follows the closing bracket. -/
def laid (depth : Nat) (closing : Char) (rest first : List Char) : List (List Char) → List Char
  | [] => newLine (depth + 1) ++ (first ++ (newLine depth ++ closing :: rest))
  | second :: others => newLine (depth + 1) ++ (first ++ ',' :: laid depth closing rest second others)

theorem block_append (opening closing : Char) (depth : Nat) (first : List Char)
    (others : List (List Char)) (rest : List Char) :
    block opening closing depth (first :: others) ++ rest =
      opening :: laid depth closing rest first others := by
  induction others generalizing first with
  | nil => simp [block, laid]
  | cons second others ih =>
      rw [laid, ← (List.cons.inj (ih second)).2]
      simp [block]

/-- On a line of its own a text is read as a value, whatever gap is behind it. -/
def LineReads {α : Type} (element : Reading α) (depth : Nat) (line : List Char) (value : α) : Prop :=
  ∀ gap rest : List Char, (∀ character ∈ gap, isGap character = true) → Apart continues rest →
    element (newLine (depth + 1) ++ (line ++ (gap ++ rest))) value rest

theorem series_laid {α : Type} {element : Reading α} {depth : Nat} {closing : Char}
    (ends : continues closing = false) {rest first : List Char} {value : α}
    (read : LineReads element depth first value) {others : List (List Char)} {values : List α}
    (reads : List.Forall₂ (LineReads element depth) others values) :
    Series element closing (laid depth closing rest first others) (value :: values) rest := by
  induction reads generalizing first value with
  | nil => exact .last (read _ _ isGap_of_mem_newLine ends)
  | cons second _ ih => exact .more (read [] _ isGap_of_mem_nil rfl) (ih second)

theorem body_block {α : Type} {element : Reading α} {depth : Nat} (opening : Char) {closing : Char}
    (ends : continues closing = false) {rest : List Char} {lines : List (List Char)}
    {values : List α} (reads : List.Forall₂ (LineReads element depth) lines values) :
    ∃ text, block opening closing depth lines ++ rest = opening :: text ∧
      Body element closing text values rest := by
  cases reads with
  | nil => exact ⟨closing :: rest, rfl, .empty ⟨[], isGap_of_mem_nil, rfl⟩⟩
  | cons read reads => exact ⟨_, block_append .., .series (series_laid ends read reads)⟩

/-!
## Documents of finite data
-/

/-- The document of a value is read as the value wherever no number goes on behind it. -/
def DocumentReads (value : Value) : Prop :=
  ∀ ⦃depth : Nat⦄ ⦃rest : List Char⦄, Apart Binary64.isPart rest →
    Reads (document depth value ++ rest) value rest

theorem apart_gap_append {gap rest : List Char} (blank : ∀ character ∈ gap, isGap character = true)
    (apart : Apart continues rest) : Apart Binary64.isPart (gap ++ rest) :=
  Gap.apart ⟨gap, blank, rfl⟩ (apart_isPart_of_continues apart)

theorem padded_document {value : Value} (reads : DocumentReads value) {depth : Nat}
    {front gap rest : List Char} (blankFront : ∀ character ∈ front, isGap character = true)
    (blank : ∀ character ∈ gap, isGap character = true) (apart : Apart continues rest) :
    Padded Reads (front ++ (document depth value ++ (gap ++ rest))) value rest :=
  ⟨_, _, ⟨front, blankFront, rfl⟩, reads (apart_gap_append blank apart), gap, blank, rfl⟩

theorem lineReads_item {value : Value} (reads : DocumentReads value) (depth : Nat) :
    LineReads (Padded Reads) depth (document (depth + 1) value) value :=
  fun _ _ blank apart => padded_document reads isGap_of_mem_newLine blank apart

theorem entryText_append (depth : Nat) (entry : String × Value) (rest : List Char) :
    entryText depth entry ++ rest = '"' :: (entry.1.toList.flatMap escaped ++
      '"' :: ':' :: ([' '] ++ (document depth entry.2 ++ rest))) := by
  rw [entryText, List.append_assoc, string_append]
  rfl

theorem isGap_of_mem_blank : ∀ character ∈ [' '], isGap character = true :=
  List.forall_mem_singleton.mpr rfl

theorem lineReads_entry {entry : String × Value} (reads : DocumentReads entry.2) (depth : Nat) :
    LineReads (Member Reads) depth (entryText (depth + 1) entry) entry := by
  intro gap rest blank apart
  rw [entryText_append]
  exact ⟨_, _, _, ⟨_, isGap_of_mem_newLine, rfl⟩, letters_escaped _ _,
    ⟨[], isGap_of_mem_nil, rfl⟩,
    padded_document reads isGap_of_mem_blank blank apart⟩

theorem reads_word (word : String) {value : Value} (isWord : (word, value) ∈ words)
    (rest : List Char) : Reads (word.toList ++ rest) value rest :=
  reads_iff.mpr (.word isWord)

theorem documentReads_of_allFinite {value : Value} (data : value.IsData) (finite : value.AllFinite) :
    DocumentReads value := by
  -- Inside of a list or an object a gap follows each value, so that no number goes on.
  induction data with
  | null => exact fun _ rest _ => reads_word "null" List.mem_cons_self rest
  | bool value =>
      intro depth rest _
      cases value with
      | true => exact reads_word "true" (by simp [words]) rest
      | false => exact reads_word "false" (by simp [words]) rest
  | int value => exact fun _ _ _ => reads_iff.mpr (.number (numeral_characters value))
  | real value =>
      intro depth rest _
      obtain ⟨number, rfl⟩ := Value.allFinite_real_iff.mp finite
      have written : document depth (.real (.finite number)) =
          signText number.negative ++ number.characters numberLayout := String.toList_ofList
      rw [written]
      exact reads_iff.mpr (.number (numeral_finite number numberLayout))
  | text value =>
      intro depth rest _
      have read : Sentence Reads _ _ rest := .text (letters_escaped value.toList rest)
      rw [String.ofList_toList] at read
      rw [document, string_append]
      exact reads_iff.mpr read
  | @list items _ ih =>
      intro depth rest _
      rw [document, members_eq_map]
      have lines : List.Forall₂ (LineReads (Padded Reads) depth)
          (items.map (document (depth + 1))) items := by
        rw [List.forall₂_map_left_iff, List.forall₂_same]
        exact fun item member => lineReads_item
          (ih item member (Value.allFinite_list_iff.mp finite item member)) depth
      obtain ⟨text, written, body⟩ := body_block '[' (by rfl : continues ']' = false) lines
      rw [written]
      exact reads_iff.mpr (.list body)
  | @object entries distinct _ ih =>
      intro depth rest _
      rw [document, fields_eq_map]
      have lines : List.Forall₂ (LineReads (Member Reads) depth)
          (entries.map (entryText (depth + 1))) entries := by
        rw [List.forall₂_map_left_iff, List.forall₂_same]
        exact fun entry member => lineReads_entry
          (ih entry member (Value.allFinite_object_iff.mp finite entry member)) depth
      obtain ⟨text, written, body⟩ := body_block '\x7b' (by rfl : continues '\x7d' = false) lines
      rw [written]
      exact reads_iff.mpr (.object body distinct)

/-!
## Documents of other data
-/

/-- Nothing is read where the text stands, whatever follows it. -/
def Refused (text : List Char) : Prop :=
  ∀ ⦃rest after : List Char⦄ ⦃value : Value⦄, Apart Binary64.isPart rest →
    Apart Binary64.isPart after → ¬ Reads (text ++ rest) value after

def LineRefused {α : Type} (element : Reading α) (depth : Nat) (line : List Char) : Prop :=
  ∀ (gap rest after : List Char) (value : α), (∀ character ∈ gap, isGap character = true) →
    Apart continues rest → Apart continues after →
    ¬ element (newLine (depth + 1) ++ (line ++ (gap ++ rest))) value after

/-- A line begins after a gap, and not with a closing bracket. -/
def Visible (closing : Char) (line : List Char) : Prop :=
  ∃ first behind, line = first :: behind ∧ isGap first = false ∧ first ≠ closing

section Refused

variable {α : Type} {element : Reading α} {depth : Nat} {closing : Char}
  (unambiguous : Unambiguous continues element) (ends : continues closing = false)
  (noComma : closing ≠ ',')
include unambiguous ends noComma

/-- Of lines before a closing bracket, one that is refused is enough. -/
theorem not_series_laid {first : List Char} {others : List (List Char)}
    (each : ∀ line ∈ first :: others, (∃ value, LineReads element depth line value) ∨
      LineRefused element depth line)
    (refuses : ∃ line ∈ first :: others, LineRefused element depth line) {rest after : List Char}
    {values : List α} :
    ¬ Series element closing (laid depth closing rest first others) values after := by
  induction others generalizing first values with
  | nil =>
      obtain ⟨line, member, refused⟩ := refuses
      obtain rfl := List.mem_singleton.mp member
      intro series
      cases series with
      | last read => exact absurd read (refused _ _ _ _ isGap_of_mem_newLine ends ends)
      | more read => exact absurd read (refused _ _ _ _ isGap_of_mem_newLine ends rfl)
  | cons second others ih =>
      obtain ⟨here, later⟩ := List.forall_mem_cons.mp each
      intro series
      -- A line that is read leaves its comma, so that the refused one is among the lines behind it.
      rcases here with ⟨value, read⟩ | refused
      · have start := read [] (',' :: laid depth closing rest second others) isGap_of_mem_nil rfl
        cases series with
        | last other =>
            have same := (unambiguous start other rfl ends).2
            exact noComma (List.cons.inj same).1.symm
        | more other series =>
            have same := (unambiguous start other rfl rfl).2
            rw [← (List.cons.inj same).2] at series
            refine ih later ?_ series
            obtain ⟨line, member, refused⟩ := refuses
            rcases List.mem_cons.mp member with rfl | member
            · exact absurd start (refused [] _ _ _ isGap_of_mem_nil rfl rfl)
            · exact ⟨line, member, refused⟩
      · cases series with
        | last other => exact absurd other (refused [] _ _ _ isGap_of_mem_nil rfl ends)
        | more other => exact absurd other (refused [] _ _ _ isGap_of_mem_nil rfl rfl)

theorem not_body_block {opening : Char} {lines : List (List Char)}
    (visible : ∀ line ∈ lines, Visible closing line)
    (each : ∀ line ∈ lines, (∃ value, LineReads element depth line value) ∨
      LineRefused element depth line)
    (refuses : ∃ line ∈ lines, LineRefused element depth line) {rest after text : List Char}
    {values : List α} (written : block opening closing depth lines ++ rest = opening :: text) :
    ¬ Body element closing text values after := by
  cases lines with
  | nil =>
      obtain ⟨line, absent, -⟩ := refuses
      exact absurd absent List.not_mem_nil
  | cons line lines =>
      rw [block_append] at written
      obtain rfl := (List.cons.inj written).2
      intro body
      cases body with
      | empty gap =>
          obtain ⟨first, behind, same, solid, different⟩ := visible line List.mem_cons_self
          obtain ⟨others, starts⟩ : ∃ others, laid depth closing rest line lines =
              newLine (depth + 1) ++ (line ++ others) := by
            cases lines <;> exact ⟨_, rfl⟩
          rw [starts, same] at gap
          have closed := gap.unique ⟨_, isGap_of_mem_newLine, rfl⟩
            (Bool.or_eq_false_iff.mp ends).1 solid
          exact different (List.cons.inj closed).1.symm
      | series series => exact not_series_laid unambiguous ends noComma each refuses series

end Refused

theorem sentence_list {inner : Reading Value} {text opened rest : List Char} {value : Value}
    (read : Sentence inner opened value rest) (opens : opened = '[' :: text) :
    ∃ items, Body (Padded inner) ']' text items rest := by
  have valueKind : valueKind? value = some .list := valueKind?_of_sentence read opens rfl
  cases read with
  | word isWord => cases (valueKind?_of_word isWord).symm.trans valueKind
  | number numeral => cases (valueKind?_of_numeral numeral).symm.trans valueKind
  | list body => exact ⟨_, (List.cons.inj opens).2 ▸ body⟩
  | _ => cases valueKind

theorem sentence_object {inner : Reading Value} {text opened rest : List Char} {value : Value}
    (read : Sentence inner opened value rest) (opens : opened = '\x7b' :: text) :
    ∃ entries, Body (Member inner) '\x7d' text entries rest := by
  have valueKind : valueKind? value = some .object := valueKind?_of_sentence read opens rfl
  cases read with
  | word isWord => cases (valueKind?_of_word isWord).symm.trans valueKind
  | number numeral => cases (valueKind?_of_numeral numeral).symm.trans valueKind
  | object body => exact ⟨_, (List.cons.inj opens).2 ▸ body⟩
  | _ => cases valueKind

/-- The document of a value is refused at every depth. -/
def DocumentRefused (value : Value) : Prop :=
  ∀ depth, Refused (document depth value)

theorem digit_behind_minus {token behind : List Char} {value : Value}
    (numeral : Numeral token value) (minus : token = '-' :: behind) :
    ∃ digit rest, behind = digit :: rest ∧ digit.isDigit = true := by
  have head (negative : Bool) {whole : List Char} (isWhole : IsWhole whole) (rest : List Char)
      (same : signText negative ++ (whole ++ rest) = '-' :: behind) :
      ∃ digit rest, behind = digit :: rest ∧ digit.isDigit = true := by
    obtain ⟨digit, others, rfl, isDigit⟩ := isWhole.1.exists_cons
    cases negative with
    | true => exact ⟨digit, _, (List.cons.inj same).2.symm, isDigit⟩
    | false =>
        obtain rfl := (List.cons.inj same).1
        exact absurd isDigit (by decide)
  cases numeral with
  | integer negative isWhole => exact head negative isWhole [] (by simpa using minus)
  | real negative isWhole => exact head negative isWhole _ (by simpa using minus)

/-- No value begins with a minus that has no digit behind it. -/
theorem digit_of_sentence_minus {inner : Reading Value} {opened text rest : List Char}
    {first : Char} {value : Value} (read : Sentence inner opened value rest)
    (opens : opened = '-' :: first :: text) : first.isDigit = true := by
  have valueKind : valueKind? value = some .number := valueKind?_of_sentence read opens rfl
  cases read with
  | word isWord => cases (valueKind?_of_word isWord).symm.trans valueKind
  | number numeral =>
      obtain ⟨minus, behind, token, -⟩ := numeral_head numeral
      rw [token] at opens
      obtain ⟨sign, follows⟩ := List.cons.inj opens
      obtain ⟨digit, others, rfl, isDigit⟩ := digit_behind_minus numeral (sign ▸ token)
      exact (List.cons.inj follows).1 ▸ isDigit
  | _ => cases valueKind

theorem refused_real {number : Binary64} (notFinite : ¬ number.IsFinite) :
    DocumentRefused (.real number) := by
  intro depth rest after value _ _ read
  obtain ⟨first, behind, kind, same, isKind, valueKind⟩ := begins_reads read
  cases number with
  | finite number => exact notFinite ⟨number, rfl⟩
  | nan =>
      obtain rfl : 'N' = first := (List.cons.inj same).1
      cases isKind
  | infinite negative =>
      cases negative with
      | false =>
          obtain rfl : 'I' = first := (List.cons.inj same).1
          cases isKind
      | true =>
          have written : document depth (.real (.infinite true)) ++ rest =
              '-' :: 'I' :: ("nfinity".toList ++ rest) := rfl
          exact absurd (digit_of_sentence_minus (reads_iff.mp read) written) (by decide)

theorem visible_of_kind {first : Char} {behind : List Char} {kind : Kind}
    (isKind : kindOf? first = some kind) : Visible ']' (first :: behind) := by
  refine ⟨first, behind, rfl, Bool.eq_false_iff.mpr fun gap => ?_, ?_⟩
  · rw [kindOf?_of_isGap gap] at isKind
    cases isKind
  · rintro rfl
    cases isKind

theorem block_eq_cons (opening closing : Char) (depth : Nat) (lines : List (List Char)) :
    ∃ text, block opening closing depth lines = opening :: text := by
  cases lines <;> exact ⟨_, rfl⟩

theorem visible_document (value : Value) (depth : Nat) (data : value.IsData) :
    Visible ']' (document depth value) := by
  cases data with
  | null => exact ⟨'n', _, rfl, rfl, by decide⟩
  | bool value => cases value <;> exact ⟨_, _, rfl, rfl, by decide⟩
  | int value =>
      obtain ⟨first, behind, written, isKind, -⟩ := numeral_head (numeral_characters value)
      rw [document, written]
      exact visible_of_kind isKind
  | real value =>
      cases value with
      | finite number =>
          have written : document depth (.real (.finite number)) =
              signText number.negative ++ number.characters numberLayout := String.toList_ofList
          obtain ⟨first, behind, same, isKind, -⟩ :=
            numeral_head (numeral_finite number numberLayout)
          rw [written, same]
          exact visible_of_kind isKind
      | infinite negative => cases negative <;> exact ⟨_, _, rfl, rfl, by decide⟩
      | nan => exact ⟨'N', _, rfl, rfl, by decide⟩
  | text value => exact ⟨'"', _, rfl, rfl, by decide⟩
  | @list items =>
      obtain ⟨text, written⟩ := block_eq_cons '[' ']' depth (members depth items)
      rw [document, written]
      exact ⟨'[', _, rfl, rfl, by decide⟩
  | @object entries =>
      obtain ⟨text, written⟩ := block_eq_cons '\x7b' '\x7d' depth (fields depth entries)
      rw [document, written]
      exact ⟨'\x7b', _, rfl, rfl, by decide⟩

theorem not_padded_document {value : Value} (data : value.IsData) (refused : DocumentRefused value)
    {depth : Nat} {front gap rest after : List Char} {other : Value}
    (blankFront : ∀ character ∈ front, isGap character = true)
    (blank : ∀ character ∈ gap, isGap character = true) (apart : Apart continues rest)
    (apartAfter : Apart continues after) :
    ¬ Padded Reads (front ++ (document depth value ++ (gap ++ rest))) other after := by
  rintro ⟨start, stop, before, read, behind⟩
  obtain ⟨first, others, written, solid, -⟩ := visible_document value depth data
  obtain rfl : document depth value ++ (gap ++ rest) = start := by
    refine Gap.unique ⟨_, blankFront, rfl⟩ before ?_ (begins_reads.apart read)
    rw [written]
    exact solid
  exact refused depth (apart_gap_append blank apart)
    (behind.apart (apart_isPart_of_continues apartAfter)) read

theorem lineRefused_item {value : Value} (data : value.IsData) (refused : DocumentRefused value)
    (depth : Nat) : LineRefused (Padded Reads) depth (document (depth + 1) value) :=
  fun _ _ _ _ blank apart apartAfter =>
    not_padded_document data refused isGap_of_mem_newLine blank apart apartAfter

theorem lineRefused_entry {entry : String × Value} (data : entry.2.IsData)
    (refused : DocumentRefused entry.2) (depth : Nat) :
    LineRefused (Member Reads) depth (entryText (depth + 1) entry) := by
  rintro gap rest after other blank apart apartAfter ⟨start, stop, text, before, letters, colon, read⟩
  rw [entryText_append] at before
  obtain rfl := (List.cons.inj (before.unique ⟨_, isGap_of_mem_newLine, rfl⟩ rfl rfl)).2
  obtain ⟨-, rfl⟩ := letters_unique letters (letters_escaped _ _)
  obtain rfl := (List.cons.inj (colon.unique ⟨[], isGap_of_mem_nil, rfl⟩ rfl rfl)).2
  exact not_padded_document data refused isGap_of_mem_blank blank apart apartAfter read

theorem documentRefused_of_not_allFinite {value : Value} (data : value.IsData)
    (infinite : ¬ value.AllFinite) : DocumentRefused value := by
  induction data with
  | null => exact absurd Value.allFinite_null infinite
  | bool value => exact absurd (Value.allFinite_bool value) infinite
  | int value => exact absurd (Value.allFinite_int value) infinite
  | text value => exact absurd (Value.allFinite_text value) infinite
  | real number => exact refused_real (mt Value.allFinite_real_iff.mpr infinite)
  | @list items data ih =>
      intro depth rest after value _ _ read
      obtain ⟨item, member, itemInfinite⟩ : ∃ item ∈ items, ¬ item.AllFinite := by
        simpa using mt Value.allFinite_list_iff.mpr infinite
      rw [document, members_eq_map] at read
      obtain ⟨text, opens⟩ := block_eq_cons '[' ']' depth (items.map (document (depth + 1)))
      obtain ⟨others, body⟩ := sentence_list (reads_iff.mp read) (congrArg (· ++ rest) opens)
      refine not_body_block (unambiguous_padded begins_reads unambiguous_reads) (by rfl) (by decide)
        ?_ ?_ ?_ (congrArg (· ++ rest) opens) body
      · exact List.forall_mem_map.mpr fun item member => visible_document item _ (data item member)
      · refine List.forall_mem_map.mpr fun item member => ?_
        by_cases finite : item.AllFinite
        · exact .inl ⟨item, lineReads_item (documentReads_of_allFinite (data item member) finite) _⟩
        · exact .inr (lineRefused_item (data item member) (ih item member finite) depth)
      · exact ⟨_, List.mem_map_of_mem member,
          lineRefused_item (data item member) (ih item member itemInfinite) depth⟩
  | @object entries distinct data ih =>
      intro depth rest after value _ _ read
      obtain ⟨entry, member, entryInfinite⟩ : ∃ entry ∈ entries, ¬ entry.2.AllFinite := by
        have unbounded := mt Value.allFinite_object_iff.mpr infinite
        push Not at unbounded
        exact unbounded
      rw [document, fields_eq_map] at read
      obtain ⟨text, opens⟩ :=
        block_eq_cons '\x7b' '\x7d' depth (entries.map (entryText (depth + 1)))
      obtain ⟨others, body⟩ := sentence_object (reads_iff.mp read) (congrArg (· ++ rest) opens)
      refine not_body_block (unambiguous_member begins_reads unambiguous_reads) (by rfl) (by decide)
        ?_ ?_ ?_ (congrArg (· ++ rest) opens) body
      · exact List.forall_mem_map.mpr fun entry _ => ⟨'"', _, rfl, rfl, by decide⟩
      · refine List.forall_mem_map.mpr fun entry member => ?_
        by_cases finite : entry.2.AllFinite
        · exact .inl ⟨entry,
            lineReads_entry (documentReads_of_allFinite (data entry member) finite) _⟩
        · exact .inr (lineRefused_entry (data entry member) (ih entry member finite) depth)
      · exact ⟨_, List.mem_map_of_mem member,
          lineRefused_entry (data entry member) (ih entry member entryInfinite) depth⟩

/-!
## Whole documents
-/

/-- The document of finite data, with a gap behind it, denotes the data and nothing else. -/
theorem isText_document_iff {value : Value} (data : value.IsData) (finite : value.AllFinite)
    {gap : List Char} (blank : ∀ character ∈ gap, isGap character = true) {other : Value} :
    IsText (document 0 value ++ gap) other ↔ other = value := by
  have isText : IsText (document 0 value ++ gap) value := by
    have read : Padded Reads ([] ++ (document 0 value ++ (gap ++ []))) value [] :=
      padded_document (documentReads_of_allFinite data finite) isGap_of_mem_nil blank Text.apart_nil
    rwa [List.nil_append, List.append_nil] at read
  constructor
  · exact fun isOther => isOther.unique isText
  · rintro rfl
    exact isText

/-- The document of data with an infinity or something that is not a number denotes nothing. -/
theorem not_isText_document {value : Value} (data : value.IsData) (infinite : ¬ value.AllFinite)
    {gap : List Char} (blank : ∀ character ∈ gap, isGap character = true) (other : Value) :
    ¬ IsText (document 0 value ++ gap) other := by
  have refused : ¬ Padded Reads ([] ++ (document 0 value ++ (gap ++ []))) other [] :=
    not_padded_document data (documentRefused_of_not_allFinite data infinite) isGap_of_mem_nil blank
      Text.apart_nil Text.apart_nil
  rwa [List.nil_append, List.append_nil] at refused

/-- A document that is written of data denotes the data if its numbers are finite. Otherwise it is no
JSON. -/
theorem isText_write?_iff {value : Value} {written : String} (data : value.IsData)
    (wrote : write? value = some written) {gap : List Char}
    (blank : ∀ character ∈ gap, isGap character = true) (other : Value) :
    IsText (written.toList ++ gap) other ↔ value.AllFinite ∧ other = value := by
  obtain ⟨-, same⟩ := Option.ite_none_right_eq_some.mp wrote
  obtain rfl := Option.some.inj same
  rw [String.toList_ofList]
  by_cases finite : value.AllFinite
  · rw [isText_document_iff data finite blank, and_iff_right finite]
  · exact iff_of_false (not_isText_document data finite blank other) fun both => finite both.1

end Json

end MediaSearch

import MediaSearch.Proofs.Phrase.LetterCase
import MediaSearch.Proofs.Phrase.Steps
import MediaSearch.Proofs.Signals.Extraction

/-!
# Amounts in texts

Durations and spans of time, told by how they are written. Their numerals are the only ones of a
text that have to be integers of a limited size, so they alone decide whether a text can be read.
-/

set_option autoImplicit false

namespace MediaSearch

open Phrase Text

namespace Signal

/-!
## Durations
-/

/-- A duration: an adjective by itself, which has no digits, or else a preposition, blanks, digits
and a unit. -/
inductive ReadsMinutes (adjective preposition : String) : Reading (List Char) where
  | bare {before rest : List Char} :
      ReadsMinutes adjective preposition before (adjective.toList ++ rest) []
  | counted {before blanks digits gap rest : List Char} {unit : String} :
      blanks ≠ [] → blanks.all isBlank = true → digits ≠ [] → digits.all isDigit = true →
      gap.all isBlank = true → unit ∈ ["min", "hour"] →
      ReadsMinutes adjective preposition before
        (preposition.toList ++ (blanks ++ (digits ++ (gap ++ (unit.toList ++ rest))))) digits

theorem not_isBlank_of_isDigit {character : Char} (digit : isDigit character = true) :
    isBlank character = false := by
  cases blank : isBlank character with
  | false => rfl
  | true => rw [isDigit_eq_false_of_isBlank blank] at digit; cases digit

/-- A text goes on with no digit where blanks, of which there may be none, and a word follow. -/
theorem head?_gap {gap word : List Char} (blank : gap.all isBlank = true)
    (letter : word.head?.any (!isDigit ·) = true) (rest : List Char) :
    (gap ++ (word ++ rest)).head?.any isDigit = false :=
  head?_any_gap (fun _ => isDigit_eq_false_of_isBlank) blank letter rest

theorem head?_digits {digits rest : List Char} (nonempty : digits ≠ [])
    (numeric : digits.all isDigit = true) : (digits ++ rest).head?.any isBlank = false := by
  cases digits with
  | nil => exact absurd rfl nonempty
  | cons digit digits =>
      simp only [List.all_cons, Bool.and_eq_true] at numeric
      simpa using not_isBlank_of_isDigit numeric.1

theorem recognises_minutes {adjective preposition : String}
    (apart : Apart [adjective, preposition]) (other : adjective ≠ preposition) :
    Recognises (fun _ => minutesHere? adjective preposition)
      (ReadsMinutes adjective preposition) := by
  intro before after digits
  dsimp only
  constructor
  · intro read
    unfold minutesHere? at read
    split at read
    · rename_i rest bare
      obtain rfl := afterWord?_eq_some_iff.mp bare
      obtain rfl := Option.some.inj read
      exact .bare
    · obtain ⟨afterPreposition, taken, read⟩ := Option.bind_eq_some_iff.mp read
      obtain ⟨behind, spaced, read⟩ := Option.bind_eq_some_iff.mp read
      obtain ⟨⟨numeral, rest⟩, counted, read⟩ := Option.bind_eq_some_iff.mp read
      obtain ⟨unitless, unitTaken, read⟩ := Option.bind_eq_some_iff.mp read
      obtain rfl := Option.some.inj read
      obtain rfl := afterWord?_eq_some_iff.mp taken
      obtain ⟨_, blanks, spaces, blank, rfl⟩ := afterBlanks?_eq_some_iff.mp spaced
      obtain ⟨nonempty, numeric, _, rfl⟩ := someDigits?_eq_some_iff.mp counted
      obtain ⟨unit, known, split⟩ := exists_of_afterWord? unitTaken
      obtain ⟨gap, gapBlank, whole⟩ := exists_skipped rest
      rw [whole, split]
      exact .counted spaces blank nonempty numeric gapBlank known
  · intro reads
    cases reads with
    | bare => rw [minutesHere?, afterWord?_eq_some_iff.mpr rfl]
    | @counted _ blanks _ gap rest unit spaces blank nonempty numeric gapBlank known =>
        have letters : ∀ unit ∈ ["min", "hour"], unit.toList.head?.any (!isDigit ·) = true ∧
            unit.toList.head?.any (!isBlank ·) = true := by
          decide
        obtain ⟨noDigit, noBlank⟩ := letters unit known
        have notBare : afterWord? [adjective] (preposition.toList ++
            (blanks ++ (digits ++ (gap ++ (unit.toList ++ rest))))) = none := by
          refine afterWord?_eq_none_iff.mpr fun word only begun => other ?_
          obtain rfl := List.mem_singleton.mp only
          exact apart.eq_of_prefix (by simp) (by simp) begun
        have spaced : afterBlanks? (blanks ++ (digits ++ (gap ++ (unit.toList ++ rest)))) =
            Option.some (digits ++ (gap ++ (unit.toList ++ rest))) :=
          afterBlanks?_eq_some_iff.mpr ⟨head?_digits nonempty numeric, blanks, spaces, blank, rfl⟩
        have counted : someDigits? (digits ++ (gap ++ (unit.toList ++ rest))) =
            Option.some (digits, gap ++ (unit.toList ++ rest)) :=
          someDigits?_eq_some_iff.mpr ⟨nonempty, numeric, head?_gap gapBlank noDigit rest, rfl⟩
        have unitTaken : afterWord? ["min", "hour"]
            (skipBlanks (gap ++ (unit.toList ++ rest))) = Option.some rest := by
          rw [skipBlanks_gap gapBlank noBlank, afterWord?_of_mem (by decide) known]
        rw [minutesHere?, notBare]
        exact Option.bind_eq_some_iff.mpr ⟨_, afterWord?_eq_some_iff.mpr rfl,
          Option.bind_eq_some_iff.mpr ⟨_, spaced, Option.bind_eq_some_iff.mpr ⟨_, counted,
            Option.bind_eq_some_iff.mpr ⟨_, unitTaken, rfl⟩⟩⟩⟩

/-!
## Recency
-/

/-- The units of recency and the days that they have. -/
def recencyUnits : List (String × Nat) :=
  [("day", 1), ("week", 7), ("month", 30)]

/-- A word for new items and a unit of time, between them small words and digits, any of which may
be left out. Blanks may stand behind each. -/
inductive ReadsRecency : Reading Recency where
  | spoken {before afterNew afterIn afterThe afterLast digits afterDigits rest : List Char}
      {newWord inWord theWord lastWord unit : String} {days : Nat} :
      newWord ∈ ["added", "new"] → inWord ∈ ["", "in"] → theWord ∈ ["", "the"] →
      lastWord ∈ ["", "last", "past"] → (unit, days) ∈ recencyUnits →
      afterNew.all isBlank = true → afterIn.all isBlank = true → afterThe.all isBlank = true →
      afterLast.all isBlank = true → digits.all isDigit = true → afterDigits.all isBlank = true →
      ReadsRecency before (newWord.toList ++ (afterNew ++ (inWord.toList ++ (afterIn ++
        (theWord.toList ++ (afterThe ++ (lastWord.toList ++ (afterLast ++ (digits ++
          (afterDigits ++ (unit.toList ++ rest))))))))))) ⟨digits, days⟩

theorem unitDays?_eq_some_iff {text : List Char} {days : Nat} :
    unitDays? text = some days ↔
      ∃ unit rest, (unit, days) ∈ recencyUnits ∧ text = unit.toList ++ rest := by
  constructor
  · intro read
    obtain ⟨⟨unit, unitDays⟩, known, here⟩ := List.exists_of_findSome?_eq_some read
    obtain ⟨rest, taken, rfl⟩ := Option.map_eq_some_iff.mp here
    exact ⟨unit, rest, known, afterWord?_eq_some_iff.mp taken⟩
  · rintro ⟨unit, rest, known, rfl⟩
    simp only [recencyUnits, List.mem_cons, List.not_mem_nil, or_false, Prod.mk.injEq] at known
    rcases known with ⟨rfl, rfl⟩ | ⟨rfl, rfl⟩ | ⟨rfl, rfl⟩ <;> rfl

/-- What may follow the small words: a digit, or the first letter of a unit. -/
def beginsSpan : Char → Bool :=
  orBegins (recencyUnits.map (·.1)) isDigit

theorem begins_span {digits gap rest : List Char} {unit : String} {days : Nat}
    (numeric : digits.all isDigit = true) (blank : gap.all isBlank = true)
    (known : (unit, days) ∈ recencyUnits) :
    Begins beginsSpan (digits ++ (gap ++ (unit.toList ++ rest))) := by
  have letters : ∀ unit ∈ recencyUnits, unit.1.toList.head?.any (!isBlank ·) = true ∧
      unit.1.toList.head?.any beginsSpan = true := by
    decide
  obtain ⟨solid, passes⟩ := letters _ known
  cases digits with
  | nil => exact (begins_append_blanks blank).mpr (begins_append_word solid passes rest)
  | cons digit digits =>
      simp only [List.all_cons, Bool.and_eq_true] at numeric
      refine begins_append_word ?_ ?_ _
      · simpa using not_isBlank_of_isDigit numeric.1
      · simp [beginsSpan, orBegins, numeric.1]

theorem exists_span {digits gap : List Char} {unit : String} {days : Nat}
    (numeric : digits.all isDigit = true) (blank : gap.all isBlank = true)
    (known : (unit, days) ∈ recencyUnits) (rest : List Char) :
    ∃ left, Numeral.spanDigits (skipBlanks (digits ++ (gap ++ (unit.toList ++ rest)))) =
      (digits, left) ∧ skipBlanks left = unit.toList ++ rest := by
  have letters : ∀ unit ∈ recencyUnits, unit.1.toList.head?.any (!isBlank ·) = true ∧
      unit.1.toList.head?.any (!isDigit ·) = true := by
    decide
  obtain ⟨noBlank, noDigit⟩ := letters _ known
  have unitStarts := skipBlanks_gap blank noBlank rest
  by_cases some : digits = []
  · -- Without digits, the blanks before the unit are taken off with those before the digits.
    subst some
    rw [List.nil_append, unitStarts]
    refine ⟨_, spanDigits_eq_iff.mpr ⟨rfl, @head?_gap [] _ rfl noDigit rest, rfl⟩, ?_⟩
    exact @skipBlanks_gap [] _ rfl noBlank rest
  · rw [skipBlanks_eq_self (head?_digits some numeric)]
    exact ⟨_, spanDigits_eq_iff.mpr ⟨numeric, head?_gap blank noDigit rest, rfl⟩, unitStarts⟩

theorem recognises_recency : Recognises (fun _ => recencyHere?) ReadsRecency := by
  intro before after recency
  dsimp only
  constructor
  · intro read
    obtain ⟨behindNew, taken, spoken⟩ := Option.bind_eq_some_iff.mp read
    dsimp only at spoken
    obtain ⟨newWord, isNew, rfl⟩ := exists_of_afterWord? taken
    obtain ⟨afterNew, blankNew, splitNew⟩ := exists_skipped behindNew
    generalize skipBlanks behindNew = front at spoken splitNew
    obtain ⟨inWord, isIn, afterIn, blankIn, splitIn⟩ := exists_optional ["in"] front
    generalize skipBlanks (afterOptionalWord ["in"] front) = behindIn at spoken splitIn
    obtain ⟨theWord, isThe, afterThe, blankThe, splitThe⟩ := exists_optional ["the"] behindIn
    generalize skipBlanks (afterOptionalWord ["the"] behindIn) = behindThe at spoken splitThe
    obtain ⟨lastWord, isLast, afterLast, blankLast, splitLast⟩ :=
      exists_optional ["last", "past"] behindThe
    generalize skipBlanks (afterOptionalWord ["last", "past"] behindThe) = behindLast
      at spoken splitLast
    cases span : Numeral.spanDigits behindLast with
    | mk digits rest =>
        rw [span] at spoken
        obtain ⟨days, unitRead, same⟩ := Option.bind_eq_some_iff.mp spoken
        obtain rfl := Option.some.inj same
        obtain ⟨numeric, _, splitDigits⟩ := spanDigits_eq_iff.mp span
        obtain ⟨afterDigits, blankDigits, splitRest⟩ := exists_skipped rest
        obtain ⟨unit, left, known, splitUnit⟩ := unitDays?_eq_some_iff.mp unitRead
        rw [splitNew, splitIn, splitThe, splitLast, splitDigits, splitRest, splitUnit]
        exact .spoken isNew isIn isThe isLast known blankNew blankIn blankThe blankLast numeric
          blankDigits
  · intro reads
    cases reads with
    | @spoken _ afterNew afterIn afterThe afterLast digits afterDigits rest newWord inWord theWord
        lastWord unit days isNew isIn isThe isLast known blankNew blankIn blankThe blankLast numeric
        blankDigits =>
        -- What follows each small word, from the last to the first, cannot be taken for the word.
        have behindLast : Begins beginsSpan (digits ++ (afterDigits ++ (unit.toList ++ rest))) :=
          begins_span numeric blankDigits known
        have behindThe := begins_append_optional isLast (by decide) blankLast behindLast
        have behindIn := begins_append_optional isThe (by decide) blankThe behindThe
        obtain ⟨left, span, unitStarts⟩ := exists_span numeric blankDigits known rest
        refine Option.bind_eq_some_iff.mpr ⟨_, afterWord?_of_mem (by decide) isNew _, ?_⟩
        dsimp only
        rw [skipBlanks_append blankNew,
          skipBlanks_afterOptionalWord (by decide) isIn (by decide) (by decide) blankIn behindIn,
          skipBlanks_afterOptionalWord (by decide) isThe (by decide) (by decide) blankThe behindThe,
          skipBlanks_afterOptionalWord (by decide) isLast (by decide) (by decide) blankLast
            behindLast, span]
        exact Option.bind_eq_some_iff.mpr
          ⟨days, unitDays?_eq_some_iff.mpr ⟨unit, rest, known, unitStarts⟩, rfl⟩

end Signal

/-!
## Numerals that are too long
-/

/-- The error about a numeral that has too many digits. -/
def Integer.refusal? (digits : List Char) : Option TooManyDigits :=
  if maxDigits < digits.length then some ⟨digits.length⟩ else none

theorem Integer.refusal?_eq_none_iff {digits : List Char} :
    refusal? digits = none ↔ digits.length ≤ maxDigits := by
  simp [refusal?]

theorem Integer.maxDigits_lt_of_refusal? {digits : List Char} {error : TooManyDigits}
    (refused : refusal? digits = some error) : maxDigits < error.digits := by
  unfold refusal? at refused
  split at refused
  · rename_i long
    rwa [← Option.some.inj refused]
  · cases refused

theorem Integer.error?_ofDigits (digits : List Char) :
    Result.error? (ofDigits digits) = refusal? digits := by
  unfold ofDigits refusal?
  split <;> rfl

namespace Signal

theorem error?_minutes (whenBare : Nat) (digits : List Char) :
    Result.error? (minutes whenBare digits) = Integer.refusal? digits := by
  cases digits with
  | nil => rfl
  | cons digit digits => exact Integer.error?_ofDigits (digit :: digits)

theorem error?_days (recency : Recency) :
    Result.error? recency.days = Integer.refusal? recency.digits := by
  obtain ⟨digits, unitDays⟩ := recency
  cases digits with
  | nil => rfl
  | cons digit digits =>
      exact (Result.error?_map _ _).trans (Integer.error?_ofDigits (digit :: digits))

theorem error?_mapM_minutes (whenBare : Nat) (found : Option (List Char)) :
    Result.error? (found.mapM (minutes whenBare)) = found.toList.findSome? Integer.refusal? := by
  rw [Result.error?_mapM]
  exact congrArg (List.findSome? · _) (funext (error?_minutes whenBare))

/-- Where no span of time is spelled out, there is no numeral to refuse. -/
theorem error?_addedWithinDays? (text : List Char) :
    Result.error? (addedWithinDays? text) =
      ((first recencyHere? text).map Recency.digits).toList.findSome? Integer.refusal? := by
  rw [addedWithinDays?, Result.error?_mapM, funext error?_days, recency?]
  cases first recencyHere? text with
  | some recency => rfl
  | none => split <;> rfl

/-- The numerals of which a text makes integers, in the order in which it does: those of the
greatest and of the least duration, and that of recency. Those that are left out have no digits. -/
inductive ReadsNumerals (text : List Char) : List (List Char) → Prop where
  | intro {greatest least : Option (List Char)} {recency : Option Recency} :
      Leftmost (ReadsMinutes "short" "under") text greatest →
      Leftmost (ReadsMinutes "long" "over") text least →
      Leftmost ReadsRecency text recency →
      ReadsNumerals text
        (greatest.toList ++ least.toList ++ (recency.map Recency.digits).toList)

end Signal

/-- A text is refused for the first of its numerals that has too many digits. -/
theorem Signals.error?_ofLowered {text : List Char} {numerals : List (List Char)}
    (read : Signal.ReadsNumerals text numerals) :
    Result.error? (ofLowered text) = numerals.findSome? Integer.refusal? := by
  obtain ⟨greatest, least, recency⟩ := read
  obtain rfl := (leftmost_iff_first (Signal.recognises_minutes (by decide) (by decide))).mp greatest
  obtain rfl := (leftmost_iff_first (Signal.recognises_minutes (by decide) (by decide))).mp least
  obtain rfl := (leftmost_iff_first Signal.recognises_recency).mp recency
  rw [List.findSome?_append, List.findSome?_append, Option.or_assoc,
    ← Signal.error?_mapM_minutes 90, ← Signal.error?_mapM_minutes 120,
    ← Signal.error?_addedWithinDays?]
  refine Result.error?_bind fun _ => Result.error?_bind fun _ => ?_
  refine Eq.trans (Result.error?_bind ?_) Option.or_none
  exact fun _ => rfl

theorem Filter.error?_ofText {text : String} {numerals : List (List Char)}
    (read : Signal.ReadsNumerals (lower text.toList) numerals) :
    Result.error? (ofText text) = numerals.findSome? Integer.refusal? :=
  (Result.error?_map _ _).trans (Signals.error?_ofLowered read)

theorem Signal.exists_readsNumerals (text : List Char) :
    ∃ numerals, ReadsNumerals text numerals :=
  ⟨_, .intro ((leftmost_iff_first (recognises_minutes (by decide) (by decide))).mpr rfl)
    ((leftmost_iff_first (recognises_minutes (by decide) (by decide))).mpr rfl)
    ((leftmost_iff_first recognises_recency).mpr rfl)⟩

theorem Filter.maxDigits_lt_of_ofText_eq_error {text : String} {error : Integer.TooManyDigits}
    (refused : ofText text = .error error) : Integer.maxDigits < error.digits := by
  obtain ⟨numerals, read⟩ := Signal.exists_readsNumerals (lower text.toList)
  rw [← Result.error?_eq_some_iff, error?_ofText read] at refused
  obtain ⟨digits, _, long⟩ := List.exists_of_findSome?_eq_some refused
  exact Integer.maxDigits_lt_of_refusal? long

/-- A text is read unless one of its numerals has too many digits. The first of these is what it is
refused for. -/
theorem Filter.ofText_fails_iff_numeral_tooLong (text : String) :
    ∃ numerals, Signal.ReadsNumerals (lower text.toList) numerals ∧
      ((∃ filter, ofText text = .ok filter) ↔
        ∀ digits ∈ numerals, digits.length ≤ Integer.maxDigits) ∧
      ∀ error, ofText text = .error error ↔
        numerals.findSome? Integer.refusal? = some error := by
  obtain ⟨numerals, read⟩ := Signal.exists_readsNumerals (lower text.toList)
  refine ⟨numerals, read, ?_, fun error => ?_⟩
  · rw [← Result.error?_eq_none_iff, error?_ofText read, List.findSome?_eq_none_iff]
    exact forall₂_congr fun _ _ => Integer.refusal?_eq_none_iff
  · rw [← Result.error?_eq_some_iff, error?_ofText read]

theorem Filter.ofText_of_tooLong_minutes {text : String} {digits rest : List Char}
    (numeric : digits.all isDigit = true) (long : Integer.maxDigits < digits.length)
    (lowered : lower text.toList =
      "under".toList ++ ([' '] ++ (digits ++ ([' '] ++ ("min".toList ++ rest))))) :
    ofText text = .error ⟨digits.length⟩ := by
  have nonempty : digits ≠ [] := List.ne_nil_of_length_pos (by omega)
  have found : Leftmost (Signal.ReadsMinutes "short" "under") (lower text.toList)
      (Option.some digits) := by
    rw [lowered]
    refine .found (List.nil_append _).symm ?_ fun _ _ _ _ less _ => absurd less (Nat.not_lt_zero _)
    exact .counted (List.cons_ne_nil _ _) rfl nonempty numeric rfl List.mem_cons_self
  obtain ⟨numerals, read⟩ := Signal.exists_readsNumerals (lower text.toList)
  rw [← Result.error?_eq_some_iff, error?_ofText read]
  cases read with
  | intro greatest least recency =>
      obtain rfl := greatest.unique (Signal.recognises_minutes (by decide) (by decide)) found
      simp [Integer.refusal?, long]

/-- The number 45, with zeros in front of it. -/
def fortyFive (zeros : Nat) : List Char :=
  List.replicate zeros '0' ++ ['4', '5']

theorem length_fortyFive (zeros : Nat) : (fortyFive zeros).length = zeros + 2 := by
  simp [fortyFive]

theorem all_isDigit_fortyFive (zeros : Nat) : (fortyFive zeros).all isDigit = true := by
  have zero : isDigit '0' = true := by
    decide
  have others : ['4', '5'].all isDigit = true := by
    decide
  rw [fortyFive, List.all_append, List.all_replicate, zero, others]
  simp

theorem digitsValue_fortyFive (zeros : Nat) : digitsValue (fortyFive zeros) = 45 := by
  induction zeros with
  | zero => decide
  | succ zeros ih => exact ih

theorem lower_under_fortyFive (zeros : Nat) :
    lower ("Under ".toList ++ (fortyFive zeros ++ " min".toList)) =
      "under".toList ++ ([' '] ++ (fortyFive zeros ++ ([' '] ++ ("min".toList ++ [])))) := by
  have digits := List.all_eq_true.mp (all_isDigit_fortyFive zeros)
  have same : (fortyFive zeros).map Char.toLower = fortyFive zeros :=
    (List.map_congr_left fun digit member => toLower_of_isDigit (digits digit member)).trans
      (List.map_id _)
  rw [lower_of_isPlain, List.map_append, List.map_append, same]
  · rfl
  · simp only [List.forall_mem_append]
    exact ⟨isPlain_of_all (by decide), fun digit member => .inr (digits digit member),
      isPlain_of_all (by decide)⟩

/-- A wish for less than 45 minutes is refused if zeros make its numeral longer than may be read. -/
theorem Filter.ofText_refuses_leading_zeros :
    let text := String.ofList ("Under ".toList ++ (fortyFive 4299 ++ " min".toList))
    digitsValue (fortyFive 4299) = 45 ∧ ofText text = .error ⟨4301⟩ := by
  intro text
  have lowered := lower_under_fortyFive 4299
  rw [← @String.toList_ofList ("Under ".toList ++ (fortyFive 4299 ++ " min".toList))] at lowered
  have long : Integer.maxDigits < (fortyFive 4299).length := by
    rw [length_fortyFive]
    decide
  have refused := ofText_of_tooLong_minutes (all_isDigit_fortyFive 4299) long lowered
  rw [length_fortyFive] at refused
  exact ⟨digitsValue_fortyFive 4299, refused⟩

end MediaSearch

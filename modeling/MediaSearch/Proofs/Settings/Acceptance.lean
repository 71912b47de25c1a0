import MediaSearch.Proofs.Binary64.Rounding
import MediaSearch.Proofs.Settings.Fields
import Mathlib.Data.List.TakeWhile

/-!
# Accepted settings

Settings are accepted if they are what is written and make sense. A value of a wrong type and a
value without sense are refused as such. Two timeouts are treated otherwise: one that is not a number
passes for positive, and an integer that is too large for a floating point number is an error of its
own.
-/

set_option autoImplicit false

namespace MediaSearch

/-- More than zero. What is not a number is not. -/
def Binary64.IsPositive : Binary64 → Prop
  | .finite number => 0 < number.value
  | .infinite negative => negative = false
  | .nan => False

theorem Binary64.isAtMostZero_eq_false_iff {number : Binary64} :
    number.isAtMostZero = false ↔ number.IsPositive ∨ number = .nan := by
  cases number <;> simp [isAtMostZero, IsPositive]

/-- Nothing is left of a text if there is nothing but blanks in it. -/
theorem Text.trim_eq_empty_iff {text : String} : trim text = "" ↔ isBlankText text = true := by
  rw [isBlankText, List.all_eq_true, trim, String.ofList_eq_empty_iff, trimWhile, dropEndWhile,
    List.reverse_eq_nil_iff, List.dropWhile_eq_nil_iff]
  constructor
  · intro blank
    rw [← List.dropWhile_eq_nil_iff]
    -- What is left would begin with a character that is not blank.
    by_contra left
    have first := List.head_dropWhile_not isBlank left
    rw [blank _ (List.mem_reverse.mpr (List.head_mem left))] at first
    cases first
  · intro blank character member
    exact blank character ((List.dropWhile_sublist _).subset (List.mem_reverse.mp member))

theorem Text.isBlankText_of_mem {text : String} {character : Char}
    (member : character ∈ text.toList) (visible : isBlank character = false) :
    isBlankText text = false := by
  rw [isBlankText, List.all_eq_false]
  exact ⟨character, member, by rw [visible]; decide⟩

namespace Settings

/-- What is wrong where settings are refused. -/
inductive Error.Cause where
  | wrongType | badValue | overflow
  deriving DecidableEq, Repr

def Error.cause : Error → Error.Cause
  | .value (.wrongKind ..) => .wrongType
  | .value .tooLarge => .overflow
  | _ => .badValue

/-- What users may expect of settings, the timeout apart. -/
structure Sensible (settings : Settings) : Prop where
  level : settings.notes.level ∈ ["CRITICAL", "DEBUG", "ERROR", "INFO", "WARNING"]
  noteDirectory : Text.trim settings.notes.directory ≠ ""
  url : "http://".toList <+: settings.server.url.toList ∨
    "https://".toList <+: settings.server.url.toList
  tokenVariable : Text.trim settings.server.tokenVariable ≠ ""
  limit : 1 ≤ settings.search.limit
  resultDirectory : Text.trim settings.output.directory ≠ ""
  formats : settings.output.formats ≠ []
  known : ∀ name ∈ settings.output.formats, name = "console" ∨ name = "json"

/-!
## Checks
-/

theorem Notes.check_eq_ok_iff {notes : Notes} :
    notes.check = .ok () ↔ notes.level ∈ levelNames ∧ Text.trim notes.directory ≠ "" := by
  simp only [check, Result.throw_bind, Result.admission_eq_ok_iff, Result.refusal_eq_ok_iff,
    Result.pure_eq_ok_iff, Text.trim_eq_empty_iff, ne_eq, and_true]

theorem Server.check_eq_ok_iff {server : Server} :
    server.check = .ok () ↔
      ("http://".toList <+: server.url.toList ∨ "https://".toList <+: server.url.toList) ∧
        Text.trim server.tokenVariable ≠ "" ∧
        (server.timeout.IsPositive ∨ server.timeout = .nan) := by
  simp only [check, Result.throw_bind, Result.admission_eq_ok_iff, Result.refusal_eq_ok_iff,
    Result.pure_eq_ok_iff, Text.trim_eq_empty_iff, ne_eq, and_true,
    Bool.or_eq_true, String.startsWith_string_iff, Bool.not_eq_true,
    Binary64.isAtMostZero_eq_false_iff]
  -- An address of one of the schemes begins with a letter.
  refine and_iff_right_of_imp fun ⟨scheme, _⟩ => ?_
  cases scheme with
  | inl plain => exact Text.isBlankText_of_mem (plain.subset (by decide : 'h' ∈ _)) rfl
  | inr secure => exact Text.isBlankText_of_mem (secure.subset (by decide : 'h' ∈ _)) rfl

theorem Search.check_eq_ok_iff {search : Search} :
    search.check = .ok () ↔ 1 ≤ search.limit := by
  simp only [check, Result.refusal_eq_ok_iff, Result.pure_eq_ok_iff, and_true, Int.not_le]
  exact Int.lt_iff_add_one_le

theorem sortedOnce_eq_nil_iff {names : List String} : sortedOnce names = [] ↔ names = [] := by
  simp only [sortedOnce, List.eq_nil_iff_forall_not_mem, List.mem_mergeSort,
    List.mem_eraseDups]

theorem Output.check_eq_ok_iff {output : Output} :
    output.check = .ok () ↔
      Text.trim output.directory ≠ "" ∧ output.formats ≠ [] ∧
        ∀ name ∈ output.formats, name ∈ formatNames := by
  simp only [check, Result.throw_bind, Result.admission_eq_ok_iff, Result.refusal_eq_ok_iff,
    Result.pure_eq_ok_iff, Text.trim_eq_empty_iff, ne_eq, and_true,
    List.isEmpty_iff, sortedOnce_eq_nil_iff, List.filter_eq_nil_iff, decide_eq_true_eq, not_not]

theorem Notes.cause_of_check {notes : Notes} {error : Error}
    (refused : notes.check = .error error) : error.cause = .badValue := by
  simp only [check, Result.throw_bind, Result.admission_eq_error_iff, Result.refusal_eq_error_iff,
    Result.pure_ne_error, and_false, or_false] at refused
  rcases refused with ⟨-, rfl⟩ | ⟨-, -, rfl⟩ <;> rfl

theorem Server.cause_of_check {server : Server} {error : Error}
    (refused : server.check = .error error) : error.cause = .badValue := by
  simp only [check, Result.throw_bind, Result.admission_eq_error_iff, Result.refusal_eq_error_iff,
    Result.pure_ne_error, and_false, or_false] at refused
  rcases refused with ⟨-, rfl⟩ | ⟨-, ⟨-, rfl⟩ | ⟨-, ⟨-, rfl⟩ | ⟨-, -, rfl⟩⟩⟩ <;> rfl

theorem Search.cause_of_check {search : Search} {error : Error}
    (refused : search.check = .error error) : error.cause = .badValue := by
  simp only [check, Result.refusal_eq_error_iff, Result.pure_ne_error, and_false,
    or_false] at refused
  obtain ⟨-, rfl⟩ := refused
  rfl

theorem Output.cause_of_check {output : Output} {error : Error}
    (refused : output.check = .error error) : error.cause = .badValue := by
  simp only [check, Result.throw_bind, Result.admission_eq_error_iff, Result.refusal_eq_error_iff,
    Result.pure_ne_error, and_false, or_false] at refused
  rcases refused with ⟨-, rfl⟩ | ⟨-, ⟨-, rfl⟩ | ⟨-, -, rfl⟩⟩ <;> rfl

/-!
## Values of wrong types
-/

section Types

variable {key : String} {value : Value} {error : ValueError}

theorem cause_of_expectText (refused : value.expectText key = .error error) :
    (Error.value error).cause = .wrongType := by
  cases value <;> cases refused <;> rfl

theorem cause_of_expectBool (refused : value.expectBool key = .error error) :
    (Error.value error).cause = .wrongType := by
  cases value <;> cases refused <;> rfl

theorem cause_of_expectInt (refused : value.expectInt key = .error error) :
    (Error.value error).cause = .wrongType := by
  cases value <;> cases refused <;> rfl

theorem cause_of_expectObject (refused : value.expectObject key = .error error) :
    (Error.value error).cause = .wrongType := by
  cases value <;> cases refused <;> rfl

theorem cause_of_expectTextsFrom {place : Nat} {items : List Value}
    (refused : Value.expectTextsFrom key place items = .error error) :
    (Error.value error).cause = .wrongType := by
  induction items generalizing place with
  | nil => cases refused
  | cons item rest ih =>
      rw [Value.expectTextsFrom] at refused
      rcases Result.bind_eq_error_iff.mp refused with first | ⟨text, -, others⟩
      · exact cause_of_expectText first
      · exact ih (Result.map_eq_error_iff.mp others)

theorem cause_of_expectTexts (refused : value.expectTexts key = .error error) :
    (Error.value error).cause = .wrongType := by
  cases value with
  | list items => exact cause_of_expectTextsFrom refused
  | _ =>
      cases refused
      rfl

/-- A number is not refused for its type, but it may be too large. -/
theorem cause_of_expectReal (refused : value.expectReal key = .error error) :
    (Error.value error).cause = .wrongType ∨
      error = .tooLarge ∧ ∃ whole, value = .int whole ∧ Binary64.overflow ≤ |(whole : ℚ)| := by
  cases value with
  | int whole =>
      simp only [Value.expectReal, Value.expectNumber, Except.bind, Number.toBinary64?] at refused
      cases nearest : Binary64.ofInt? whole with
      | none =>
          rw [nearest] at refused
          cases refused
          exact .inr ⟨rfl, whole, rfl, Binary64.ofInt?_eq_none_iff.mp nearest⟩
      | some number =>
          rw [nearest] at refused
          cases refused
  | real number => cases refused
  | _ =>
      cases refused
      exact .inl rfl

end Types

section Sections

variable {root : Entries} {environment : Environment} {error : Error}

theorem cause_of_sectionOf {name : String} (refused : sectionOf name false root = .error error) :
    error.cause = .wrongType := by
  unfold sectionOf at refused
  split at refused
  · cases refused
  · obtain ⟨original, mistyped, rfl⟩ := Result.mapError_eq_error_iff.mp refused
    exact cause_of_expectObject mistyped

theorem Notes.cause_of_ofEntries (refused : Notes.ofEntries root = .error error) :
    error.cause = .wrongType := by
  simp only [Notes.ofEntries, Result.bind_eq_error_iff, Result.mapError_eq_error_iff,
    Result.pure_ne_error, and_false, exists_false, or_false] at refused
  rcases refused with unopened | ⟨_, -, ⟨_, level, rfl⟩ | ⟨_, -, ⟨_, toFile, rfl⟩ |
    ⟨_, -, _, directory, rfl⟩⟩⟩
  · exact cause_of_sectionOf unopened
  · exact cause_of_expectText level
  · exact cause_of_expectBool toFile
  · exact cause_of_expectText directory

theorem Server.cause_of_ofEntries (refused : Server.ofEntries root environment = .error error) :
    error.cause = .wrongType ∨ error = .value .tooLarge ∧
      ∃ whole, given root .timeout = .int whole ∧ Binary64.overflow ≤ |(whole : ℚ)| := by
  simp only [Server.ofEntries, Result.bind_eq_error_iff, Result.mapError_eq_error_iff,
    sectionOf_eq_ok_iff, Result.pure_ne_error, and_false, exists_false, or_false] at refused
  rcases refused with unopened | ⟨_, ⟨-, rfl⟩, ⟨_, tokenVariable, rfl⟩ | ⟨_, -, ⟨_, url, rfl⟩ |
    ⟨_, -, _, timeout, rfl⟩⟩⟩
  · exact .inl (cause_of_sectionOf unopened)
  · exact .inl (cause_of_expectText tokenVariable)
  · exact .inl (cause_of_expectText url)
  · rcases cause_of_expectReal timeout with wrong | ⟨rfl, whole, same, large⟩
    · exact .inl wrong
    · exact .inr ⟨rfl, whole, same, large⟩

theorem Search.cause_of_ofEntries (refused : Search.ofEntries root = .error error) :
    error.cause = .wrongType := by
  simp only [Search.ofEntries, Result.bind_eq_error_iff, Result.mapError_eq_error_iff,
    Result.pure_ne_error, and_false, exists_false, or_false] at refused
  rcases refused with unopened | ⟨_, -, _, limit, rfl⟩
  · exact cause_of_sectionOf unopened
  · exact cause_of_expectInt limit

theorem Output.cause_of_ofEntries (refused : Output.ofEntries root = .error error) :
    error.cause = .wrongType := by
  simp only [Output.ofEntries, Result.bind_eq_error_iff, Result.mapError_eq_error_iff,
    Result.pure_ne_error, and_false, exists_false, or_false] at refused
  rcases refused with unopened | ⟨_, -, ⟨_, formats, rfl⟩ | ⟨_, -, _, directory, rfl⟩⟩
  · exact cause_of_sectionOf unopened
  · exact cause_of_expectTexts formats
  · exact cause_of_expectText directory

/-- What is refused is of a wrong type, without sense, or an integer too large for a timeout. -/
theorem cause_of_ofEntries (refused : Settings.ofEntries root environment = .error error) :
    error.cause = .wrongType ∨ error.cause = .badValue ∨ error = .value .tooLarge ∧
      ∃ whole, given root .timeout = .int whole ∧ Binary64.overflow ≤ |(whole : ℚ)| := by
  simp only [Settings.ofEntries, Result.bind_eq_error_iff, Result.pure_ne_error, and_false,
    exists_false, or_false] at refused
  rcases refused with notes | ⟨_, -, server | ⟨_, -, search | ⟨_, -, output | ⟨_, -, checked⟩⟩⟩⟩
  · exact .inl (Notes.cause_of_ofEntries notes)
  · rcases Server.cause_of_ofEntries server with wrong | large
    · exact .inl wrong
    · exact .inr (.inr large)
  · exact .inl (Search.cause_of_ofEntries search)
  · exact .inl (Output.cause_of_ofEntries output)
  · refine .inr (.inl ?_)
    rcases checked with notes | ⟨_, -, server | ⟨_, -, search | ⟨_, -, output⟩⟩⟩
    · exact Notes.cause_of_check notes
    · exact Server.cause_of_check server
    · exact Search.cause_of_check search
    · exact Output.cause_of_check output

theorem checks_eq_ok_iff {settings : Settings} :
    (settings.notes.check = .ok () ∧ settings.server.check = .ok () ∧
        settings.search.check = .ok () ∧ settings.output.check = .ok ()) ↔
      Sensible settings ∧
        (settings.server.timeout.IsPositive ∨ settings.server.timeout = .nan) := by
  rw [Notes.check_eq_ok_iff, Server.check_eq_ok_iff, Search.check_eq_ok_iff,
    Output.check_eq_ok_iff]
  constructor
  · intro passes
    obtain ⟨⟨level, noteDirectory⟩, ⟨url, tokenVariable, timeout⟩, limit, resultDirectory,
      formats, known⟩ := passes
    refine ⟨⟨level, noteDirectory, url, tokenVariable, limit, resultDirectory, formats, ?_⟩,
      timeout⟩
    intro name member
    simpa [formatNames] using known name member
  · intro sensible
    obtain ⟨sensible, timeout⟩ := sensible
    refine ⟨⟨sensible.level, sensible.noteDirectory⟩,
      ⟨sensible.url, sensible.tokenVariable, timeout⟩, sensible.limit, sensible.resultDirectory,
      sensible.formats, fun name member => ?_⟩
    simpa [formatNames] using sensible.known name member

theorem timeout_eq_nan_iff {settings : Settings} (reflects : Reflects root environment settings) :
    settings.server.timeout = .nan ↔ given root .timeout = .real .nan := by
  rcases reflects.reads .timeout with real | ⟨whole, given, nearest⟩
  · rw [real, Value.real.injEq]
  · refine iff_of_false (fun undefined => ?_) (fun undefined => ?_)
    · rw [undefined] at nearest
      exact Binary64.ofInt?_ne_nan whole nearest
    · rw [given] at undefined
      cases undefined

/-- Accepted settings are those that are written and make sense, and all others are refused for a
wrong type or a bad value. A timeout that is not a number is accepted all the same, and an integer
that is too large for a timeout is refused in a way of its own. -/
theorem outcome_of_ofEntries (root : Entries) (environment : Environment) :
    (∀ settings, Settings.ofEntries root environment = .ok settings ↔
      Reflects root environment settings ∧ Sensible settings ∧
        (settings.server.timeout.IsPositive ∨ given root .timeout = .real .nan)) ∧
    ∀ error, Settings.ofEntries root environment = .error error →
      error.cause = .wrongType ∨ error.cause = .badValue ∨ error = .value .tooLarge ∧
        ∃ whole, given root .timeout = .int whole ∧ Binary64.overflow ≤ |(whole : ℚ)| := by
  refine ⟨fun settings => ?_, fun error refused => cause_of_ofEntries refused⟩
  rw [ofEntries_eq_ok_iff, checks_eq_ok_iff]
  refine and_congr_right fun reflects => ?_
  rw [timeout_eq_nan_iff reflects]

end Sections

theorem outcome_of_ofEntries_overridden :
    let root : Entries := [
      ("log", .null),
      ("server", .object [("url", .text "https://plex.lan"), ("timeout", .int 10)]),
      ("output", .object [("formats", .list [.text " JSON "])])]
    let settings : Settings := ⟨⟨"INFO", false, "log"⟩,
      ⟨"https://plex.lan", "PLEX_TOKEN", "secret", Binary64.ofInt 10⟩, ⟨25⟩, ⟨"output", ["json"]⟩⟩
    let mistyped : Entries := [("search", .object [("limit", .bool true)])]
    let refusal : Error := .value (.wrongKind "search.limit" .integer)
    Settings.ofEntries root [("PLEX_TOKEN", " secret ")] = .ok settings ∧
      Reflects root [("PLEX_TOKEN", " secret ")] settings ∧ Sensible settings ∧
      Settings.ofEntries mistyped [] = .error refusal ∧
      (refusal.cause = .wrongType ∨ refusal.cause = .badValue ∨ refusal = .value .tooLarge ∧
        ∃ whole, given mistyped .timeout = .int whole ∧
          Binary64.overflow ≤ |(whole : ℚ)|) := by
  intro root settings mistyped refusal
  have accepted : Settings.ofEntries root [("PLEX_TOKEN", " secret ")] = .ok settings := by
    decide +kernel
  have refused : Settings.ofEntries mistyped [] = .error refusal := by
    decide +kernel
  obtain ⟨reflects, sensible, -⟩ :=
    ((outcome_of_ofEntries root [("PLEX_TOKEN", " secret ")]).1 settings).mp accepted
  exact ⟨accepted, reflects, sensible, refused, (outcome_of_ofEntries mistyped []).2 _ refused⟩

theorem timeout_neither_positive_nor_refused :
    (∃ settings,
      Settings.ofEntries [("server", .object [("timeout", .real .nan)])] [] = .ok settings ∧
        ¬ settings.server.timeout.IsPositive) ∧
    ∃ error,
      Settings.ofEntries [("server", .object [("timeout", .int (Nat.pow 10 309 : Nat))])] [] =
        .error error ∧ error.cause ≠ .wrongType ∧ error.cause ≠ .badValue := by
  constructor
  · exact ⟨⟨⟨"INFO", false, "log"⟩, ⟨"http://localhost:32400", "PLEX_TOKEN", "", .nan⟩, ⟨25⟩,
      ⟨"output", ["console"]⟩⟩, by decide +kernel, id⟩
  · exact ⟨.value .tooLarge, by decide +kernel, by decide, by decide⟩

end Settings

end MediaSearch

import MediaSearch.Program
import MediaSearch.Proofs.Folder.Writing
import MediaSearch.Proofs.Result

/-!
# Files of the journal

The journal of a run may be kept in a file, whose name tells it from result files. Nothing that the
journal does changes any other file.
-/

set_option autoImplicit false

namespace MediaSearch

/-!
## Endings of names
-/

/-- A location whose name has an ending. -/
def Location.EndsIn (location : Location) (ending : String) : Prop :=
  ∃ name ∈ location.getLast?, ending.toList <:+ name.toList

theorem Location.not_endsIn_log {location : Location} (ends : location.EndsIn ".json") :
    ¬ location.EndsIn ".log" := by
  rintro ⟨name, named, log⟩
  obtain ⟨other, otherNamed, json⟩ := ends
  obtain rfl : name = other := Option.some.inj (named.symm.trans otherNamed)
  obtain ⟨stem, split⟩ := json
  obtain ⟨logStem, logSplit⟩ := log
  have last : name.toList.getLast? = some 'n' := by rw [← split]; simp
  have logLast : name.toList.getLast? = some 'g' := by rw [← logSplit]; simp
  rw [last] at logLast
  exact absurd logLast (by decide)

def Text.Unbroken (text : String) : Prop := '/' ∉ text.toList

instance (text : String) : Decidable (Text.Unbroken text) :=
  inferInstanceAs (Decidable (¬ _))

namespace Text.Unbroken

theorem append {left right : String} (first : Unbroken left) (second : Unbroken right) :
    Unbroken (left ++ right) := by
  rw [Unbroken, String.toList_append, List.mem_append, not_or]
  exact ⟨first, second⟩

theorem digits (value : Nat) : '/' ∉ Integer.digits value := by
  intro member
  have digit := Nat.isDigit_of_mem_toDigits (by decide) (by decide) member
  cases digit

theorem padded (width value : Nat) : Unbroken (Moment.padded width value) := by
  rw [Unbroken, Moment.padded, String.toList_ofList, Integer.paddedDigits, List.mem_append, not_or]
  refine ⟨fun member => ?_, digits value⟩
  exact absurd (List.eq_of_mem_replicate member) (by decide)

theorem integer (value : Int) : Unbroken (Integer.text value) := by
  rw [Unbroken, Integer.text, String.toList_ofList]
  cases value with
  | ofNat value => exact digits value
  | negSucc value =>
      rw [Integer.characters, List.mem_cons, not_or]
      exact ⟨by decide, digits (value + 1)⟩

theorem clockDigits (moment : Moment) : Unbroken moment.clockDigits :=
  ((padded _ _).append (padded _ _)).append (padded _ _)

theorem monthDayDigits (moment : Moment) : Unbroken moment.monthDayDigits :=
  (padded _ _).append (padded _ _)

theorem logFileStamp (moment : Moment) : Unbroken moment.logFileStamp :=
  (monthDayDigits moment).append (clockDigits moment)

theorem resultFileStamp (moment : Moment) : Unbroken moment.resultFileStamp :=
  (((integer _).append (monthDayDigits moment)).append (by decide)).append (clockDigits moment)

theorem word (name : Command.Name) : Unbroken name.word := by
  cases name <;> decide

end Text.Unbroken

theorem Path.isName_append {stem ending : String} (stemUnbroken : Text.Unbroken stem)
    (unbroken : Text.Unbroken ending) (long : 2 < ending.toList.length) :
    IsName (stem ++ ending) where
  unbroken := stemUnbroken.append unbroken
  long := by
    rw [String.toList_append, List.length_append]
    omega

theorem Folder.endsIn_of_locate {folder : Folder} {path : Path} {stem ending : String}
    (isName : Path.IsName (stem ++ ending)) {location : Location}
    (leads : folder.locate (path.join (stem ++ ending)) = .ok location) :
    Location.EndsIn location ending :=
  ⟨stem ++ ending, getLast?_of_locate isName leads, stem.toList, String.toList_append.symm⟩

/-!
## The journal
-/

/-- Folders were made, and one file was written if there is one, and nothing else has changed. -/
structure Folder.Logged (file : Option Path) (before after : Folder) : Prop where
  grows : Grows before after
  others : SameBut file.toList before after

namespace Folder.Logged

variable {file : Option Path} {before middle after : Folder}

theorem refl (folder : Folder) : Logged file folder folder := ⟨.refl folder, .refl folder⟩

theorem trans (first : Logged file before middle) (second : Logged file middle after) :
    Logged file before after :=
  ⟨first.grows.trans second.grows, first.others.trans second.grows second.others⟩

theorem of_make {path : Path} (made : before.make path = .ok after) : Logged file before after := by
  obtain ⟨grows, same⟩ := make_eq_ok made
  exact ⟨grows, .of_same same⟩

theorem of_append {path : Path} {text : String} (appended : before.append path text = .ok after) :
    Logged (some path) before after := by
  obtain ⟨location, leads, changed⟩ := changed_of_append appended
  exact ⟨changed.grows, .of_changed leads changed⟩

end Folder.Logged

namespace Journal

/-- Whether a set-up asks for a file. -/
def Setup.isFiled (setup : Setup) : Bool :=
  setup.toFile && !setup.activity.isEmpty

/-- The path of the file that a set-up asks for. -/
def Setup.filePath (setup : Setup) (now : Moment) : Path :=
  setup.folderPath.join (setup.fileName now)

/-- The file that a set-up asks for, if it asks for one. -/
def Setup.file? (setup : Setup) (now : Moment) : Option Path :=
  if setup.isFiled then some (setup.filePath now) else none

/-- The level that a set-up asks for. -/
def Setup.threshold (setup : Setup) : Int :=
  Note.levelOf (if setup.level.isEmpty then "INFO" else setup.level)

theorem setUp_of_not_isFiled {setup : Setup} (closed : setup.isFiled = false) (now : Moment)
    (before : Journal) :
    setUp setup now before = .ok { before with threshold := setup.threshold, file := none } := by
  rw [Setup.isFiled] at closed
  rw [setUp, closed]
  rfl

theorem setUp_eq_ok_iff {setup : Setup} (filed : setup.isFiled = true) {now : Moment}
    {before after : Journal} :
    setUp setup now before = .ok after ↔ ∃ made folder,
      before.folder.make setup.folderPath = .ok made ∧
      made.append (setup.filePath now) "" = .ok folder ∧
      after = { before with
        threshold := setup.threshold, file := some (setup.filePath now), folder } := by
  rw [Setup.isFiled] at filed
  rw [setUp, filed]
  constructor
  · intro set
    obtain ⟨made, make, rest⟩ := Result.bind_eq_ok_iff.mp set
    obtain ⟨folder, opened, last⟩ := Result.bind_eq_ok_iff.mp rest
    exact ⟨made, folder, make, opened, (Result.pure_eq_ok_iff.mp last).symm⟩
  · rintro ⟨made, folder, make, opened, rfl⟩
    exact Result.bind_eq_ok_iff.mpr ⟨made, make,
      Result.bind_eq_ok_iff.mpr ⟨folder, opened, Result.pure_eq_ok_iff.mpr rfl⟩⟩

@[simp]
theorem threshold_note (now : Moment) (journal : Journal) (note : Note) :
    (journal.note now note).threshold = journal.threshold := by
  unfold Journal.note
  split <;> rfl

@[simp]
theorem file_note (now : Moment) (journal : Journal) (note : Note) :
    (journal.note now note).file = journal.file := by
  unfold Journal.note
  split <;> rfl

theorem folder_note (now : Moment) (journal : Journal) (note : Note) :
    (journal.note now note).folder =
      if journal.heeds note.level = true ∧ Note.detailLevel ≤ note.level then
        journal.fileLine (note.line now)
      else journal.folder := by
  unfold Journal.note
  by_cases heeded : journal.heeds note.level = true
  · simp only [heeded, if_true, true_and]
  · simp only [heeded, Bool.false_eq_true, if_false, false_and]

/-- The file of a journal has a name for journals. -/
theorem endsIn_of_filePath {setup : Setup} (unbroken : Text.Unbroken setup.activity) {now : Moment}
    {folder : Folder} {location : Location}
    (leads : folder.locate (setup.filePath now) = .ok location) : location.EndsIn ".log" := by
  have stem := (unbroken.append (by decide : Text.Unbroken "_")).append
    (Text.Unbroken.logFileStamp now)
  exact Folder.endsIn_of_locate (Path.isName_append stem (by decide) (by decide)) leads

theorem setUp_eq_ok {setup : Setup} {now : Moment} {before after : Journal}
    (set : setUp setup now before = .ok after) :
    after.file = setup.file? now ∧ Folder.Logged after.file before.folder after.folder := by
  cases filed : setup.isFiled with
  | false =>
      obtain rfl := Except.ok.inj ((setUp_of_not_isFiled filed now before).symm.trans set)
      exact ⟨by rw [Setup.file?, filed]; rfl, .refl _⟩
  | true =>
      obtain ⟨made, folder, make, opened, rfl⟩ := (setUp_eq_ok_iff filed).mp set
      exact ⟨by rw [Setup.file?, if_pos filed],
        (Folder.Logged.of_make make).trans (.of_append opened)⟩

theorem logged_fileLine (journal : Journal) (line : String) :
    Folder.Logged journal.file journal.folder (journal.fileLine line) := by
  unfold fileLine
  cases journal.file with
  | none => exact .refl _
  | some path =>
      dsimp only
      cases appended : journal.folder.append path line with
      | error error => exact .refl _
      | ok folder => exact .of_append appended

theorem logged_note (journal : Journal) (now : Moment) (note : Note) :
    Folder.Logged journal.file journal.folder (journal.note now note).folder := by
  rw [folder_note]
  split
  · exact journal.logged_fileLine _
  · exact .refl _

/-- Whatever is noted, only the file of the journal changes. -/
theorem logged_foldl_note (journal : Journal) (now : Moment) (notes : List Note) :
    Folder.Logged journal.file journal.folder (notes.foldl (note now) journal).folder := by
  induction notes generalizing journal with
  | nil => exact .refl _
  | cons note notes ih =>
      have rest := ih (journal.note now note)
      rw [file_note] at rest
      exact (journal.logged_note now note).trans rest

end Journal

end MediaSearch

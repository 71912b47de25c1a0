import MediaSearch.Proofs.Program.Journal

/-!
# Targets of the journal

The console receives the notes from the level on that was set last, and a file all from the level of
details on, each note once and in its order. So a file makes no difference to the console, and
nothing is left of what was set up before.
-/

set_option autoImplicit false

namespace MediaSearch

/-!
## Places of files
-/

namespace Folder

/-- The text in a file. One that is not there has none. -/
def textAt (folder : Folder) (location : Location) : String :=
  (folder.file? location).getD ""

/-- A path leads to a place where a file can be written. -/
structure Opens (folder : Folder) (path : Path) (place : Location) : Prop where
  leads : folder.locate path = .ok place
  free : folder.isFolder place = false

theorem isFolder_put_self {folder : Folder} {place : Location} (text : String)
    (free : folder.isFolder place = false) : (folder.put place text).isFolder place = false := by
  rw [isFolder_eq] at free ⊢
  rw [put, Keyed.map_fst_put]
  split
  · exact free
  · rw [List.any_append]
    grind

theorem opens_iff {folder : Folder} {path : Path} {place : Location} :
    folder.Opens path place ↔ folder.target path = .ok place := by
  rw [target_eq_ok_iff]
  exact ⟨fun opens => ⟨opens.leads, opens.free⟩, fun found => ⟨found.1, found.2⟩⟩

theorem Opens.append_eq {folder : Folder} {path : Path} {place : Location}
    (opens : folder.Opens path place) (text : String) :
    folder.append path text = .ok (folder.put place (folder.textAt place ++ text)) :=
  append_eq_ok_iff.mpr ⟨place, opens_iff.mp opens, rfl⟩

/-- Something can be added to a file just where a path leads to a place for it. -/
theorem exists_append_iff {folder : Folder} {path : Path} (text : String) :
    (∃ after, folder.append path text = .ok after) ↔ ∃ place, folder.Opens path place := by
  constructor
  · rintro ⟨after, appended⟩
    obtain ⟨place, target, -⟩ := append_eq_ok_iff.mp appended
    exact ⟨place, opens_iff.mpr target⟩
  · rintro ⟨place, opens⟩
    exact ⟨_, opens.append_eq text⟩

/-- A file that something was added to can be added to again. -/
theorem Opens.of_append {before after : Folder} {path : Path} {place : Location} {text : String}
    (opens : before.Opens path place) (appended : before.append path text = .ok after) :
    Changed before place (before.textAt place ++ text) after ∧ after.Opens path place := by
  obtain rfl := Except.ok.inj ((opens.append_eq text).symm.trans appended)
  have there := changed_put (before.textAt place ++ text) opens.free
  exact ⟨there, there.grows.locate opens.leads, isFolder_put_self _ opens.free⟩

end Folder

/-!
## Notes
-/

namespace Note

/-- The levels that settings can name. -/
def consoleLevels : List (String × Int) :=
  [("DEBUG", 10), ("INFO", 20), ("WARNING", 30), ("ERROR", 40), ("CRITICAL", 50)]

theorem detailLevel_le {name : String} {level : Int} (known : (name, level) ∈ consoleLevels) :
    detailLevel ≤ level := by
  have all : ∀ entry ∈ consoleLevels, detailLevel ≤ entry.2 := by decide
  exact all _ known

theorem levelOf_eq {name text : String} {level : Int} (known : (name, level) ∈ consoleLevels)
    (written : Text.upper text.toList = name.toList) :
    levelOf (if text.isEmpty then "INFO" else text) = level := by
  have nonempty : ¬ text.isEmpty = true := by
    intro empty
    rw [String.isEmpty_iff.mp empty] at written
    have named : ∀ entry ∈ consoleLevels, entry.1 ≠ "" := by decide
    exact named _ known (String.toList_eq_nil_iff.mp written.symm)
  have found : ∀ entry ∈ consoleLevels, (levels.lookup entry.1).getD infoLevel = entry.2 := by
    decide
  rw [if_neg nonempty, levelOf, written, String.ofList_toList]
  exact found _ known

/-- The lines of notes from a level on, each note with its moment. -/
def lines (least : Int) (notes : List (Moment × Note)) : String :=
  String.join ((notes.filter fun entry => least ≤ entry.2.level).map fun entry =>
    entry.2.line entry.1)

theorem lines_cons (least : Int) (now : Moment) (note : Note) (notes : List (Moment × Note)) :
    lines least ((now, note) :: notes) =
      (if least ≤ note.level then note.line now else "") ++ lines least notes := by
  unfold lines
  rw [List.filter_cons]
  by_cases heard : least ≤ note.level
  · rw [if_pos (decide_eq_true heard), if_pos heard, List.map_cons, String.join_cons]
  · rw [if_neg (mt of_decide_eq_true heard), if_neg heard, String.empty_append]

end Note

namespace Journal

/-- The journal after notes, each at its moment. -/
def noted (journal : Journal) (notes : List (Moment × Note)) : Journal :=
  notes.foldl (fun journal entry => journal.note entry.1 entry.2) journal

theorem noted_cons (journal : Journal) (now : Moment) (note : Note)
    (notes : List (Moment × Note)) :
    journal.noted ((now, note) :: notes) = (journal.note now note).noted notes :=
  rfl

/-!
## The console
-/

/-- With a file or without one, all that the console shows is looked at. -/
theorem heeds_of_threshold_le {journal : Journal} (audible : Note.detailLevel ≤ journal.threshold)
    {level : Int} (heard : journal.threshold ≤ level) : journal.heeds level = true := by
  rw [Note.detailLevel] at audible
  rw [heeds, Bool.and_eq_true, decide_eq_true_iff, decide_eq_true_iff, leastLevel, Note.detailLevel]
  split
  · omega
  · -- The threshold is not zero, so warnings do not stand in for it.
    rw [if_neg (by omega)]
    omega

theorem console_note {journal : Journal} (audible : Note.detailLevel ≤ journal.threshold)
    (now : Moment) (note : Note) :
    (journal.note now note).console =
      journal.console ++ if journal.threshold ≤ note.level then note.line now else "" := by
  by_cases heard : journal.threshold ≤ note.level
  · rw [Journal.note, if_pos (heeds_of_threshold_le audible heard), if_pos heard]
    exact if_pos heard
  · rw [Journal.note, if_neg heard, String.append_empty]
    split <;> rfl

theorem console_noted {journal : Journal} (audible : Note.detailLevel ≤ journal.threshold)
    (notes : List (Moment × Note)) :
    (journal.noted notes).console = journal.console ++ Note.lines journal.threshold notes := by
  -- A note leaves the threshold as it is, so the bound holds of the journal behind it.
  induction notes generalizing journal with
  | nil => exact String.append_empty.symm
  | cons entry notes ih =>
      obtain ⟨now, note⟩ := entry
      have still : Note.detailLevel ≤ (journal.note now note).threshold := by
        rwa [threshold_note]
      rw [noted_cons, ih still, console_note audible, threshold_note, Note.lines_cons,
        String.append_assoc]

/-!
## The file
-/

theorem folder_note_of_none {journal : Journal} (closed : journal.file = none) (now : Moment)
    (note : Note) : (journal.note now note).folder = journal.folder := by
  have same : journal.fileLine (note.line now) = journal.folder := by
    rw [fileLine, closed]
  rw [folder_note, same, ite_self]

theorem folder_noted_of_none {journal : Journal} (closed : journal.file = none)
    (notes : List (Moment × Note)) : (journal.noted notes).folder = journal.folder := by
  induction notes generalizing journal with
  | nil => rfl
  | cons entry notes ih =>
      obtain ⟨now, note⟩ := entry
      have still : (journal.note now note).file = none := by
        rwa [file_note]
      rw [noted_cons, ih still, folder_note_of_none closed]

/-- A journal is kept in a file. The path leads to its place, where a text stands so far. -/
structure Keeps (journal : Journal) (path : Path) (place : Location) (text : String) : Prop where
  filed : journal.file = some path
  opens : journal.folder.Opens path place
  there : journal.folder.file? place = some text

namespace Keeps

variable {journal : Journal} {path : Path} {place : Location} {text : String}

theorem heeds_iff (keeps : Keeps journal path place text) (level : Int) :
    journal.heeds level = true ↔ Note.detailLevel ≤ level := by
  rw [heeds, leastLevel, keeps.filed, Option.isSome_some, if_pos rfl, Bool.and_eq_true,
    decide_eq_true_iff, decide_eq_true_iff, Note.detailLevel]
  omega

/-- A line that goes to the file comes behind its text, and no other file changes. -/
theorem fileLine (keeps : Keeps journal path place text) (line : String) :
    (journal.fileLine line).Opens path place ∧
      Folder.Changed journal.folder place (text ++ line) (journal.fileLine line) := by
  obtain ⟨after, appended⟩ := (Folder.exists_append_iff line).mpr ⟨place, keeps.opens⟩
  obtain ⟨there, opens⟩ := keeps.opens.of_append appended
  have before : journal.folder.textAt place = text := by rw [Folder.textAt, keeps.there]; rfl
  have made : journal.fileLine line = after := by
    rw [Journal.fileLine, keeps.filed]
    dsimp only
    rw [appended]
  rw [before] at there
  rw [made]
  exact ⟨opens, there⟩

theorem note (keeps : Keeps journal path place text) (now : Moment) (note : Note) :
    Keeps (journal.note now note) path place
        (text ++ if Note.detailLevel ≤ note.level then note.line now else "") ∧
      ∀ other, other ≠ place →
        (journal.note now note).folder.file? other = journal.folder.file? other := by
  have filed : (journal.note now note).file = some path := by
    rw [file_note, keeps.filed]
  by_cases detailed : Note.detailLevel ≤ note.level
  · obtain ⟨opens, changed⟩ := keeps.fileLine (note.line now)
    have folder : (journal.note now note).folder = journal.fileLine (note.line now) := by
      rw [folder_note, if_pos ⟨(keeps.heeds_iff note.level).mpr detailed, detailed⟩]
    rw [← folder] at opens changed
    rw [if_pos detailed]
    exact ⟨⟨filed, opens, changed.there⟩, changed.others⟩
  · have same : journal.note now note = journal := by
      rw [Journal.note, if_neg (mt (keeps.heeds_iff note.level).mp detailed)]
    rw [if_neg detailed, String.append_empty, same]
    exact ⟨keeps, fun _ _ => rfl⟩

theorem noted (keeps : Keeps journal path place text) (notes : List (Moment × Note)) :
    Keeps (journal.noted notes) path place (text ++ Note.lines Note.detailLevel notes) ∧
      ∀ other, other ≠ place →
        (journal.noted notes).folder.file? other = journal.folder.file? other := by
  -- The text so far is part of what the induction carries: each line comes behind the others.
  induction notes generalizing journal text with
  | nil => exact ⟨String.append_empty.symm ▸ keeps, fun _ _ => rfl⟩
  | cons entry notes ih =>
      obtain ⟨now, note⟩ := entry
      obtain ⟨kept, others⟩ := keeps.note now note
      obtain ⟨all, allOthers⟩ := ih kept
      rw [Note.lines_cons, ← String.append_assoc]
      exact ⟨all, fun other elsewhere =>
        (allOthers other elsewhere).trans (others other elsewhere)⟩

end Keeps

/-!
## Setting up
-/

/-- A set-up that asks for a file fails only where the folder cannot be made or nothing can be
written at the path, and others never fail. -/
theorem exists_setUp_iff {setup : Setup} {now : Moment} {before : Journal} :
    (∃ after, setUp setup now before = .ok after) ↔
      (setup.isFiled = true → ∃ made place, before.folder.make setup.folderPath = .ok made ∧
        made.Opens (setup.filePath now) place) := by
  cases filed : setup.isFiled with
  | false => exact ⟨fun _ => nofun, fun _ => ⟨_, setUp_of_not_isFiled filed now before⟩⟩
  | true =>
      constructor
      · rintro ⟨after, set⟩ -
        obtain ⟨made, folder, make, opened, -⟩ := (setUp_eq_ok_iff filed).mp set
        obtain ⟨place, opens⟩ := (Folder.exists_append_iff "").mp ⟨folder, opened⟩
        exact ⟨made, place, make, opens⟩
      · intro possible
        obtain ⟨made, place, make, opens⟩ := possible rfl
        obtain ⟨folder, opened⟩ := (Folder.exists_append_iff "").mpr ⟨place, opens⟩
        exact ⟨_, (setUp_eq_ok_iff filed).mpr ⟨made, folder, make, opened, rfl⟩⟩

theorem keeps_of_setUp {setup : Setup} (filed : setup.isFiled = true) {now : Moment}
    {before after : Journal} (set : setUp setup now before = .ok after) :
    ∃ place, Keeps after (setup.filePath now) place (before.folder.textAt place) ∧
      ∀ other, other ≠ place → after.folder.file? other = before.folder.file? other := by
  obtain ⟨made, folder, make, opened, rfl⟩ := (setUp_eq_ok_iff filed).mp set
  obtain ⟨-, same⟩ := Folder.make_eq_ok make
  obtain ⟨place, opens⟩ := (Folder.exists_append_iff "").mp ⟨folder, opened⟩
  obtain ⟨changed, still⟩ := opens.of_append opened
  have text : made.textAt place = before.folder.textAt place := by
    rw [Folder.textAt, same, Folder.textAt]
  rw [String.append_empty, text] at changed
  exact ⟨place, ⟨rfl, still, changed.there⟩,
    fun other elsewhere => (changed.others other elsewhere).trans (same other)⟩

/-- A set-up replaces the targets, and leaves what the console and the files hold. -/
theorem setUp_spec {setup : Setup} {now : Moment} {before after : Journal}
    (set : setUp setup now before = .ok after) :
    after.threshold = setup.threshold ∧ after.console = before.console ∧
      ∀ location, after.folder.textAt location = before.folder.textAt location := by
  cases filed : setup.isFiled with
  | false =>
      rw [setUp_of_not_isFiled filed] at set
      obtain rfl := Except.ok.inj set
      dsimp only
      exact ⟨rfl, rfl, fun _ => rfl⟩
  | true =>
      obtain ⟨place, keeps, others⟩ := keeps_of_setUp filed set
      obtain ⟨made, folder, -, -, rfl⟩ := (setUp_eq_ok_iff filed).mp set
      dsimp only at keeps others ⊢
      refine ⟨rfl, rfl, fun location => ?_⟩
      by_cases here : location = place
      · subst location
        rw [Folder.textAt, keeps.there]
        rfl
      · rw [Folder.textAt, others location here, Folder.textAt]

/-- One journal comes from another by being set up any number of times. A set-up that fails may
leave folders that it made, and of the targets that it leaves nothing is told. -/
inductive SetUpAgain : Journal → Journal → Prop where
  | start {journal : Journal} : SetUpAgain journal journal
  | done {first before after : Journal} {setup : Setup} {now : Moment} :
      SetUpAgain first before → setUp setup now before = .ok after → SetUpAgain first after
  | failed {first before after : Journal} {setup : Setup} {now : Moment} {error : Folder.Error} :
      SetUpAgain first before → setUp setup now before = .error error →
      after.console = before.console →
      (∀ location, after.folder.file? location = before.folder.file? location) →
      SetUpAgain first after

theorem SetUpAgain.holdings {first last : Journal} (again : SetUpAgain first last) :
    last.console = first.console ∧
      ∀ location, last.folder.textAt location = first.folder.textAt location := by
  induction again with
  | start => exact ⟨rfl, fun _ => rfl⟩
  | done _ set ih =>
      obtain ⟨-, console, texts⟩ := setUp_spec set
      exact ⟨console.trans ih.1, fun location => (texts location).trans (ih.2 location)⟩
  | failed _ _ console files ih =>
      refine ⟨console.trans ih.1, fun location => ?_⟩
      rw [Folder.textAt, files, ← Folder.textAt, ih.2]

theorem console_noted_of_setUp {setup : Setup} (audible : Note.detailLevel ≤ setup.threshold)
    {now : Moment} {before after : Journal} (set : setUp setup now before = .ok after)
    (notes : List (Moment × Note)) :
    (after.noted notes).console = before.console ++ Note.lines setup.threshold notes := by
  obtain ⟨threshold, console, -⟩ := setUp_spec set
  rw [← threshold] at audible ⊢
  rw [console_noted audible, console]

theorem textAt_noted_of_setUp {setup : Setup} (closed : setup.isFiled = false) {now : Moment}
    {before after : Journal} (set : setUp setup now before = .ok after)
    (notes : List (Moment × Note)) (location : Location) :
    (after.noted notes).folder.textAt location = before.folder.textAt location := by
  rw [setUp_of_not_isFiled closed] at set
  obtain rfl := Except.ok.inj set
  rw [folder_noted_of_none rfl]

/-- What notes leave behind a set-up that names its level in any letter case, whatever was set up
before. It fails only if it asks for a file that cannot be opened. The console receives the notes
from the level on, in their order, and would receive the same without a file. If there is a file, it
receives the notes from the level of details on, in their order, and no other file receives
anything. -/
theorem console_and_file_of_noted {name : String} {least : Int} {setup : Setup}
    (known : (name, least) ∈ Note.consoleLevels)
    (written : Text.upper setup.level.toList = name.toList)
    {first before : Journal} (again : SetUpAgain first before) (now : Moment)
    (notes : List (Moment × Note)) :
    ((∃ journal, setUp setup now before = .ok journal) ↔
      (setup.isFiled = true → ∃ made place, before.folder.make setup.folderPath = .ok made ∧
        made.Opens (setup.filePath now) place)) ∧
    ∀ journal, setUp setup now before = .ok journal →
      (journal.noted notes).console = first.console ++ Note.lines least notes ∧
      (∃ plain, setUp { setup with toFile := false } now before = .ok plain ∧
        (plain.noted notes).console = (journal.noted notes).console) ∧
      (setup.isFiled = false → ∀ location,
        (journal.noted notes).folder.textAt location = first.folder.textAt location) ∧
      (setup.isFiled = true → ∃ place,
        (journal.noted notes).folder.locate (setup.filePath now) = .ok place ∧
        (journal.noted notes).folder.file? place =
          some (first.folder.textAt place ++ Note.lines Note.detailLevel notes) ∧
        ∀ other, other ≠ place →
          (journal.noted notes).folder.textAt other = first.folder.textAt other) := by
  have audible := Note.detailLevel_le known
  obtain rfl : setup.threshold = least := Note.levelOf_eq known written
  obtain ⟨console, texts⟩ := again.holdings
  refine ⟨exists_setUp_iff, fun journal set => ?_⟩
  have shown := console_noted_of_setUp audible set notes
  refine ⟨by rw [shown, console], ?_, fun closed location => ?_, fun filed => ?_⟩
  · have closed : ({ setup with toFile := false } : Setup).isFiled = false := rfl
    have plainSet := setUp_of_not_isFiled closed now before
    have plainShown := console_noted_of_setUp (by exact audible) plainSet notes
    exact ⟨_, plainSet, plainShown.trans shown.symm⟩
  · rw [textAt_noted_of_setUp closed set, texts]
  · obtain ⟨place, keeps, others⟩ := keeps_of_setUp filed set
    obtain ⟨kept, keptOthers⟩ := keeps.noted notes
    refine ⟨place, kept.opens.leads, ?_, fun other elsewhere => ?_⟩
    · rw [kept.there, texts]
    · rw [Folder.textAt, keptOthers other elsewhere, others other elsewhere, ← Folder.textAt, texts]

/-- A folder in which a file stands where folders of journals could be asked for. -/
def litteredFolder : Folder where
  files := [(["journals"], "")]

def noon : Moment := ⟨⟨2026, 10, 18⟩, 12, 0, 0, 0, some 0⟩

def boldSetup : Setup where
  level := "info"
  activity := "smart"
  toFile := true

/-- The set-up before, but for a folder that cannot be made. -/
def blockedSetup : Setup := { boldSetup with directory := "journals/of" }

def timidSetup : Setup := { boldSetup with level := "wArNiNg" }

def chatter : List (Moment × Note) :=
  [(noon, ⟨10, "asking"⟩), (noon, ⟨30, "slow"⟩), (noon, ⟨9, "counting"⟩), (noon, ⟨50, "lost"⟩)]

/-- What the set-ups before leave: a file of the last one that did not fail, and no file to write to.
-/
def jadedJournal : Journal where
  folder := {
    files := [(["journals"], ""), (["log", "smart", "smart_1018120000.log"], "")]
    made := [["log"], ["log", "smart"]] }

theorem console_and_file_of_noted_chatter :
    SetUpAgain { folder := litteredFolder } jadedJournal ∧
    ∃ journal, setUp timidSetup noon jadedJournal = .ok journal ∧
      (journal.noted chatter).console =
        "10-18 12:00:00 [WARN] slow\n10-18 12:00:00 [ERRO] lost\n" ∧
      (journal.noted chatter).folder.file? ["log", "smart", "smart_1018120000.log"] =
        some ("10-18 12:00:00 [DEBG] asking\n10-18 12:00:00 [WARN] slow\n" ++
          "10-18 12:00:00 [ERRO] lost\n") := by
  have again : SetUpAgain { folder := litteredFolder } jadedJournal := by
    have bold : setUp boldSetup noon { folder := litteredFolder } = .ok _ := rfl
    exact .failed (.done .start bold) (rfl : setUp blockedSetup noon _ = .error _) rfl
      fun _ => rfl
  have known : ("WARNING", 30) ∈ Note.consoleLevels := by decide
  have written : Text.upper timidSetup.level.toList = "WARNING".toList := by decide
  have set : setUp timidSetup noon jadedJournal = .ok _ := rfl
  obtain ⟨console, -, -, file⟩ :=
    (console_and_file_of_noted known written again noon chatter).2 _ set
  obtain ⟨place, leads, text, -⟩ := file rfl
  obtain rfl : ["log", "smart", "smart_1018120000.log"] = place := Except.ok.inj leads
  exact ⟨again, _, set, console, text⟩

end Journal

end MediaSearch

import MediaSearch.Proofs.Program.Journal
import MediaSearch.Proofs.Program.Runs
import MediaSearch.Proofs.Report.Saving

/-!
# What a run leaves behind

A run that fails leaves every file but that of its journal as it was, unless writing its result file
broke off, and a run that succeeds writes one result file if one is asked for. A command prints before
its result file is written, so that what was printed may stand although the file could not be written.
-/

set_option autoImplicit false

namespace MediaSearch

open Session (holdings)

namespace Command

/-- The payloads that a command has kept when it succeeds: that of its search, if it has one. -/
inductive Yields (library : Library) (session : Session) : Command → List Value → Prop where
  | smart {text : String} {limit : Option Int} {outcome : Outcome} {found : Session}
      {payload : Value} :
      (library.searchText text limit).runIn session = (.ok outcome, found) →
      outcome.payload = .ok payload → Yields library session (.smart text limit) [payload]
  | advanced {filter : Entries} {outcome : Outcome} {found : Session} {payload : Value} :
      (library.searchStructured (.object filter)).runIn session = (.ok outcome, found) →
      outcome.payload = .ok payload → Yields library session (.advanced filter) [payload]
  | compile {text : String} {sectionId : Option String} {limit : Option Int} :
      Yields library session (.compile text sectionId limit) []
  | sections : Yields library session .sections []

/-- What a command leaves that succeeds: its payloads if they are saved, and what it printed. Only
compiling prints. -/
structure Leaves (library : Library) (reporter : Reporter) (command : Command)
    (before after : Session) (payloads : List Value) (printed : String) : Prop where
  held : after.holdings = { before.holdings with
    payloads := before.payloads ++ payloads
    printed := before.printed ++ printed }
  yields : Format.Saves reporter.formats → command.Yields library before payloads
  compiled : printed ≠ "" → command.name = .compile

theorem Yields.eq_nil_of_compile {library : Library} {session : Session} {command : Command}
    {payloads : List Value} (yields : command.Yields library session payloads)
    (compiles : command.name = .compile) : payloads = [] := by
  cases yields with
  | smart => cases compiles
  | advanced => cases compiles
  | compile => rfl
  | sections => cases compiles

def Reported (reporter : Reporter) : Prop :=
  Format.Saves reporter.formats ∨ reporter.formats = [.console]

variable {library : Library} {reporter : Reporter} {command : Command} {session later : Session}

namespace Leaves

variable {payloads : List Value} {printed : String}

theorem folder_eq (leaves : Leaves library reporter command session later payloads printed) :
    later.folder = session.folder :=
  congrArg Session.Holdings.folder leaves.held

theorem printed_eq (leaves : Leaves library reporter command session later payloads printed) :
    later.printed = session.printed ++ printed :=
  congrArg Session.Holdings.printed leaves.held

/-- Of a session without payloads, what is saved after a command is what the command yields. -/
theorem saved_eq (leaves : Leaves library reporter command session later payloads printed)
    (fresh : session.payloads = []) (directory activity : String) :
    Format.saved directory activity later.localTime later.payloads later.folder =
      Format.saved directory activity session.localTime payloads session.folder := by
  have now_eq : later.now = session.now := congrArg Session.Holdings.now leaves.held
  have zone_eq : later.zone = session.zone := congrArg Session.Holdings.zone leaves.held
  have payloads_eq : later.payloads = session.payloads ++ payloads :=
    congrArg Session.Holdings.payloads leaves.held
  rw [Session.localTime, now_eq, zone_eq, payloads_eq, fresh, List.nil_append, leaves.folder_eq]
  rfl

end Leaves

theorem leaves_nothing (held : later.holdings = session.holdings)
    (yields : Format.Saves reporter.formats → command.Yields library session []) :
    Leaves library reporter command session later [] "" where
  held := by
    rw [List.append_nil, String.append_empty]
    exact held
  yields := yields
  compiled := fun printed => absurd rfl printed

/-!
## Searching
-/

theorem exists_leaves_of_searchWith {search : Action Outcome} (reported : Reported reporter)
    (keeps : search.Keeps holdings)
    (yields : ∀ {outcome found payload}, search.runIn session = (.ok outcome, found) →
      outcome.payload = .ok payload → command.Yields library session [payload])
    (ran : (searchWith reporter search).runIn session = (.ok (), later)) :
    ∃ payloads printed, Leaves library reporter command session later payloads printed := by
  rcases reported with saves | console
  · obtain ⟨outcome, found, payload, searched, made, held⟩ := payload_of_searchWith saves keeps ran
    refine ⟨[payload], "", ?_, fun _ => yields searched made, fun printed => absurd rfl printed⟩
    rw [String.append_empty]
    exact held
  · have held := holdings_searchWith_of_console console keeps session
    rw [ran] at held
    refine ⟨[], "", leaves_nothing held fun saves => ?_⟩
    rcases saves with formats | formats
    · rw [console] at formats
      cases formats
    · rw [console] at formats
      cases formats

theorem failsKeeping_searchWith_of_reported {search : Action Outcome}
    (reported : Reported reporter) (keeps : search.Keeps holdings) :
    (searchWith reporter search).FailsKeeping holdings := by
  rcases reported with saves | console
  · exact failsKeeping_searchWith saves keeps
  · exact (holdings_searchWith_of_console console keeps).failsKeeping

/-!
## Compiling
-/

/-- A document is printed when everything else has been done. -/
theorem exists_execute_compile (library : Library) (reporter : Reporter) (text : String)
    (sectionId : Option String) (limit : Option Int) :
    ∃ compiling : Action Value, compiling.Keeps holdings ∧
      execute library reporter (.compile text sectionId limit) = compiling >>= printDocument := by
  refine ⟨library.resolveText text sectionId limit >>= fun filter =>
    library.compile filter >>= fun query =>
      pure (.object [("filters", filter.toValue), ("compiled", query.toValue)]), ?_, ?_⟩
  · exact (library.holdings_resolveText text sectionId limit).bind fun filter =>
      (library.holdings_compile filter).bind fun _ => Action.keeps_pure _
  · simp only [execute, bind_assoc, pure_bind]

theorem exists_document_of_printDocument {value : Value}
    (ran : (printDocument value).runIn session = (.ok (), later)) :
    ∃ document, Json.write? value = some document ∧
      later = { session with printed := session.printed ++ (document ++ "\n") } := by
  unfold printDocument at ran
  cases written : Json.write? value with
  | none =>
      rw [written] at ran
      cases ran
  | some document =>
      rw [written] at ran
      cases ran
      exact ⟨document, rfl, rfl⟩

theorem failsKeeping_printDocument (value : Value) :
    (printDocument value).FailsKeeping holdings := by
  intro session later failure ran
  unfold printDocument at ran
  cases written : Json.write? value with
  | none =>
      rw [written] at ran
      cases ran
      rfl
  | some document =>
      rw [written] at ran
      cases ran

/-!
## Commands
-/

theorem holdings_execute_sections (library : Library) (reporter : Reporter) :
    (execute library reporter .sections).Keeps holdings :=
  library.holdings_sections.bind fun _ => (Action.holdings_note _ _).bind fun _ =>
    Action.keeps_forM fun _ => Action.holdings_note _ _

theorem exists_leaves_of_execute (reported : Reported reporter)
    (ran : (execute library reporter command).runIn session = (.ok (), later)) :
    ∃ payloads printed, Leaves library reporter command session later payloads printed := by
  cases command with
  | smart text limit =>
      exact exists_leaves_of_searchWith reported (library.holdings_searchText text limit)
        Yields.smart ran
  | advanced filter =>
      exact exists_leaves_of_searchWith reported
        (library.holdings_searchStructured (.object filter)) Yields.advanced ran
  | compile text sectionId limit =>
      obtain ⟨compiling, keeps, same⟩ :=
        exists_execute_compile library reporter text sectionId limit
      rw [same] at ran
      obtain ⟨value, compiled, start, rest⟩ := Action.exists_of_runIn_bind_ok ran
      obtain ⟨document, -, rfl⟩ := exists_document_of_printDocument rest
      have held := keeps session
      rw [start] at held
      refine ⟨[], document ++ "\n", ?_, fun _ => .compile, fun _ => rfl⟩
      rw [List.append_nil]
      change { compiled.holdings with
        printed := compiled.holdings.printed ++ (document ++ "\n") } = _
      rw [held]
      rfl
  | sections =>
      have held := holdings_execute_sections library reporter session
      rw [ran] at held
      exact ⟨[], "", leaves_nothing held fun _ => .sections⟩

theorem failsKeeping_execute (library : Library) (reported : Reported reporter)
    (command : Command) : (execute library reporter command).FailsKeeping holdings := by
  cases command with
  | smart text limit =>
      exact failsKeeping_searchWith_of_reported reported (library.holdings_searchText text limit)
  | advanced filter =>
      exact failsKeeping_searchWith_of_reported reported
        (library.holdings_searchStructured (.object filter))
  | compile text sectionId limit =>
      obtain ⟨compiling, keeps, same⟩ :=
        exists_execute_compile library reporter text sectionId limit
      rw [same]
      exact keeps.bind_failsKeeping failsKeeping_printDocument
  | sections => exact (holdings_execute_sections library reporter).failsKeeping

end Command

namespace Program

open Format (saved)

variable {readers : Readers} {settings : Settings} {command : Command} {session later : Session}

/-!
## Work
-/

/-- How work ends: it is stopped before its command is done, it has nothing to save, or it comes to
saving the payloads of its command, which is the last that may fail. -/
inductive Worked (readers : Readers) (settings : Settings) (command : Command) (before : Session) :
    Except Failure Unit → Session → Prop where
  | stopped {failure : Failure} {after : Session} :
      after.holdings = before.holdings →
      Worked readers settings command before (.error failure) after
  | unasked {client : Client} {after : Session} :
      Client.connect settings.server.url settings.server.token (.real settings.server.timeout) =
        .ok client →
      "json" ∉ settings.output.formats → after.folder = before.folder →
      Worked readers settings command before (.ok ()) after
  | saved {client : Client} {payloads : List Value} {answer : Except Failure Unit}
      {after : Session} :
      Client.connect settings.server.url settings.server.token (.real settings.server.timeout) =
        .ok client →
      "json" ∈ settings.output.formats →
      command.Yields (library readers settings client) before payloads →
      saved settings.output.directory command.name.word before.localTime payloads before.folder =
        (answer, after.folder) →
      (after.printed ≠ before.printed → command.name = .compile) →
      Worked readers settings command before answer after

theorem worked_of_finish {client : Client} {reporter : Reporter} {answer : Except Failure Unit}
    {middle : Session} {payloads : List Value} {printed : String} (fresh : session.payloads = [])
    (equips : equipped settings = .ok (client, reporter))
    (leaves : Command.Leaves (library readers settings client) reporter command session middle
      payloads printed)
    (ran : (reporter.finish command.name.word).runIn middle = (answer, later)) :
    Worked readers settings command session answer later := by
  obtain ⟨connects, makes⟩ := equipped_eq_ok equips
  obtain ⟨directory, formats⟩ := Reporter.ofSettings_eq_ok makes
  rcases formats with ⟨asked, saves⟩ | ⟨unasked, console⟩
  · obtain ⟨notes, ended⟩ :=
      Format.runIn_finish_json settings.output.directory command.name.word middle
    rw [Reporter.finish_of_saves saves, directory, ended,
      leaves.saved_eq fresh settings.output.directory command.name.word] at ran
    cases ran
    refine .saved connects asked (leaves.yields saves) rfl fun shown => leaves.compiled ?_
    rintro rfl
    exact shown (leaves.printed_eq.trans String.append_empty)
  · rw [Reporter.finish_of_console console] at ran
    cases ran
    exact .unasked connects unasked leaves.folder_eq

theorem worked_of_perform {answer : Except Failure Unit} (fresh : session.payloads = [])
    (ran : (perform readers settings command).runIn session = (answer, later)) :
    Worked readers settings command session answer later := by
  cases equips : equipped settings with
  | error failure =>
      rw [runIn_perform_of_error equips] at ran
      cases ran
      exact .stopped rfl
  | ok equipment =>
      obtain ⟨client, reporter⟩ := equipment
      obtain ⟨-, formats⟩ := Reporter.ofSettings_eq_ok (equipped_eq_ok equips).2
      have reported : Command.Reported reporter := formats.imp And.right And.right
      rw [runIn_perform_of_ok equips] at ran
      cases executed : (command.execute (library readers settings client) reporter).runIn session with
      | mk result middle =>
          cases result with
          | error failure =>
              rw [Action.runIn_bind_of_error executed] at ran
              cases ran
              exact .stopped (Command.failsKeeping_execute _ reported command executed)
          | ok _ =>
              rw [Action.runIn_bind_of_ok executed] at ran
              obtain ⟨payloads, printed, leaves⟩ :=
                Command.exists_leaves_of_execute reported executed
              exact worked_of_finish fresh equips leaves ran

/-!
## Runs
-/

/-- A run that gets to its work: what its words ask for with which settings, and its journal. -/
structure Begins (surroundings : Surroundings) (words : List String) (settings : Settings)
    (command : Command) (journal : Journal) : Prop where
  prepares : prepared surroundings words = .ok (settings, command)
  setsUp : Journal.setUp (journalSetup settings.notes command.name) surroundings.localTime
    { folder := surroundings.folder } = .ok journal

/-- A run is over before its work and has changed nothing, or it is what its work comes to. -/
theorem run_ends_early_or_begins (surroundings : Surroundings) (words : List String) :
    (∃ ending : Ending, ending.exitCode ≠ 0 ∧
      run surroundings words = { ending, folder := surroundings.folder }) ∨
    ∃ settings command journal, Begins surroundings words settings command journal ∧
      run surroundings words =
        closed surroundings journal (performed surroundings settings command journal) := by
  rw [run_eq]
  cases prepares : prepared surroundings words with
  | error ending => exact .inl ⟨ending, exitCode_of_prepared_error prepares, rfl⟩
  | ok both =>
      obtain ⟨settings, command⟩ := both
      cases setsUp : Journal.setUp (journalSetup settings.notes command.name)
          surroundings.localTime { folder := surroundings.folder } with
      | error error =>
          exact .inl ⟨.unjournaled error, (by decide : (1 : UInt32) ≠ 0),
            runCommand_of_unjournaled setsUp⟩
      | ok journal =>
          exact .inr ⟨settings, command, journal, ⟨prepares, setsUp⟩,
            runCommand_of_journaled setsUp⟩

/-- The file that the journal of a run is kept in, if its settings ask for one. -/
def journalFile (surroundings : Surroundings) (words : List String) : Option Path :=
  match prepared surroundings words with
  | .error _ => none
  | .ok (settings, command) =>
      (journalSetup settings.notes command.name).file? surroundings.localTime

variable {surroundings : Surroundings} {words : List String} {journal : Journal}

theorem Begins.journalFile_eq (begins : Begins surroundings words settings command journal) :
    journalFile surroundings words = journal.file := by
  rw [journalFile, begins.prepares]
  exact (Journal.setUp_eq_ok begins.setsUp).1.symm

theorem Begins.logged (begins : Begins surroundings words settings command journal) :
    Folder.Logged (journalFile surroundings words) surroundings.folder journal.folder := by
  rw [begins.journalFile_eq]
  exact (Journal.setUp_eq_ok begins.setsUp).2

/-- Closing a run changes the file of its journal at most. -/
theorem Begins.logged_closed (begins : Begins surroundings words settings command journal)
    (ended : Except Failure Unit × Session) :
    Folder.Logged (journalFile surroundings words) ended.2.folder
      (closed surroundings journal ended).folder := by
  rw [begins.journalFile_eq]
  exact Journal.logged_foldl_note { journal with folder := ended.2.folder } _ _

theorem exitCode_closed_iff {ended : Except Failure Unit × Session} :
    (closed surroundings journal ended).ending.exitCode = 0 ↔ ended.1 = .ok () := by
  rcases ended with ⟨failure | _, session⟩
  · exact ⟨fun succeeds => absurd succeeds (by decide : (1 : UInt32) ≠ 0), nofun⟩
  · exact ⟨fun _ => rfl, fun _ => rfl⟩

/-- The file of a journal is not where a result file may be. -/
theorem endsIn_of_journalFile {path : Path} (kept : path ∈ journalFile surroundings words)
    {folder : Folder} {location : Location} (leads : folder.locate path = .ok location) :
    location.EndsIn ".log" := by
  unfold journalFile at kept
  cases prepares : prepared surroundings words with
  | error ending =>
      rw [prepares] at kept
      cases kept
  | ok both =>
      obtain ⟨settings, command⟩ := both
      rw [prepares] at kept
      obtain ⟨-, same⟩ := Option.ite_none_right_eq_some.mp kept
      cases same
      exact Journal.endsIn_of_filePath (Text.Unbroken.word command.name) leads

theorem endsIn_of_resultPath {directory : String} {name : Command.Name} {now : Moment}
    {folder : Folder} {location : Location}
    (leads : folder.locate (Format.resultPath directory name.word now) = .ok location) :
    location.EndsIn ".json" := by
  have stem := ((Text.Unbroken.word name).append (by decide : Text.Unbroken "_")).append
    (Text.Unbroken.resultFileStamp now)
  exact Folder.endsIn_of_locate (Path.isName_append stem (by decide) (by decide)) leads

/-- What stands in a result file stays there while the journal goes on. -/
theorem result_stays {directory : String} {name : Command.Name} {now : Moment}
    {saving last : Folder} {place : Location}
    (leads : saving.locate (Format.resultPath directory name.word now) = .ok place)
    (closes : Folder.Logged (journalFile surroundings words) saving last) :
    last.locate (Format.resultPath directory name.word now) = .ok place ∧
      last.file? place = saving.file? place := by
  refine ⟨closes.grows.locate leads, closes.others place fun path member journaled => ?_⟩
  have log := endsIn_of_journalFile (Option.mem_toList.mp member) journaled
  exact Location.not_endsIn_log (endsIn_of_resultPath leads) log

theorem holds_of_logged {directory : String} {name : Command.Name} {now : Moment}
    {payloads : List Value} {saving last : Folder}
    (holds : Format.Holds (Format.resultPath directory name.word now) payloads saving)
    (closes : Folder.Logged (journalFile surroundings words) saving last) :
    Format.Holds (Format.resultPath directory name.word now) payloads last := by
  obtain ⟨document, written, read⟩ := holds
  obtain ⟨place, leads, there⟩ := Folder.read_eq_ok_iff.mp read
  obtain ⟨leads, same⟩ := result_stays leads closes
  exact ⟨document, written, Folder.read_eq_ok_iff.mpr ⟨place, leads, same.trans there⟩⟩

theorem cutShort_of_logged {directory : String} {name : Command.Name} {now : Moment}
    {payloads : List Value} {first opened saving last : Folder}
    (journaled : Folder.Logged (journalFile surroundings words) first opened)
    (broken : Format.CutShort (Format.resultPath directory name.word now) payloads opened saving)
    (closes : Folder.Logged (journalFile surroundings words) saving last) :
    Format.CutShort (Format.resultPath directory name.word now) payloads first last := by
  obtain ⟨document, place, kept, reason, written, breaks, leads, there⟩ := broken
  obtain ⟨leads, same⟩ := result_stays leads closes
  rw [journaled.grows.breaksOff] at breaks
  exact ⟨document, place, kept, reason, written, breaks, leads, same.trans there⟩

/-- What changed between two stretches of the journal changed in between. -/
theorem sameBut_of_logged {file : Option Path} {paths : List Path}
    {first opened saving last : Folder} (journaled : Folder.Logged file first opened)
    (grows : Folder.Grows opened saving) (others : Folder.SameBut paths opened saving)
    (closes : Folder.Logged file saving last) :
    Folder.SameBut (paths ++ file.toList) first last :=
  ((journaled.others.weaken (List.subset_append_right _ _)).trans grows
    (others.weaken (List.subset_append_left _ _))).trans closes.grows
      (closes.others.weaken (List.subset_append_right _ _))

/-- What is saved, the closing of the run included: a result file that holds the payloads, no change,
or a file that was cut short. -/
theorem Begins.saved_cases (begins : Begins surroundings words settings command journal)
    {payloads : List Value} {answer : Except Failure Unit} {saving last : Folder}
    (saves : saved settings.output.directory command.name.word surroundings.localTime payloads
      journal.folder = (answer, saving))
    (closes : Folder.Logged (journalFile surroundings words) saving last) :
    let path := Format.resultPath settings.output.directory command.name.word
      surroundings.localTime
    let log := (journalFile surroundings words).toList
    (answer = .ok () ∧ Format.Holds path payloads last ∧
      Folder.SameBut (path :: log) surroundings.folder last) ∨
    ∃ failure, answer = .error failure ∧
      (Folder.SameBut log surroundings.folder last ∨
        Format.CutShort path payloads surroundings.folder last ∧
          Folder.SameBut (path :: log) surroundings.folder last) := by
  intro path log
  obtain ⟨grows, outcome⟩ := Format.saved_cases settings.output.directory command.name.word
    surroundings.localTime payloads journal.folder
  rw [saves] at grows outcome
  rcases outcome with ⟨succeeds, holds, others⟩ | ⟨failure, fails, left⟩
  · exact .inl ⟨succeeds, holds_of_logged holds closes,
      sameBut_of_logged begins.logged grows others closes⟩
  · refine .inr ⟨failure, fails, ?_⟩
    rcases left with sameFiles | ⟨broken, others⟩
    · have untouched : Folder.SameBut [] journal.folder saving := .of_same sameFiles
      exact .inl (sameBut_of_logged begins.logged grows untouched closes)
    · exact .inr ⟨cutShort_of_logged begins.logged broken closes,
        sameBut_of_logged begins.logged grows others closes⟩

/-- A run that gets to its work ends as the work does, with a journal that went on. -/
theorem Begins.exists_worked (begins : Begins surroundings words settings command journal)
    (same : run surroundings words =
      closed surroundings journal (performed surroundings settings command journal)) :
    ∃ answer later,
      Worked surroundings.readers settings command (opened surroundings journal) answer later ∧
      Folder.Logged (journalFile surroundings words) later.folder
        (run surroundings words).folder ∧
      ((run surroundings words).ending.exitCode = 0 ↔ answer = .ok ()) ∧
      (run surroundings words).printed = later.printed := by
  cases ran : performed surroundings settings command journal with
  | mk answer later =>
      rw [same, ran]
      exact ⟨answer, later, worked_of_perform rfl ran, begins.logged_closed (answer, later),
        exitCode_closed_iff, rfl⟩

/-- A run that fails leaves every file but its journal as it was, unless writing its result file broke
off: then that file holds a front part of what it should, and no other file has changed. It has
printed nothing, unless it compiled and only its result file could not be written. A run that
succeeds writes one result file, if one is asked for, with the payloads that its command yields, and
leaves all others but its journal. -/
theorem run_saves_or_leaves_files (surroundings : Surroundings) (words : List String) :
    let result := run surroundings words
    let now := surroundings.localTime
    let log := (journalFile surroundings words).toList
    (result.ending.exitCode ≠ 0 →
      (Folder.SameBut log surroundings.folder result.folder ∨
        ∃ settings command journal client payloads,
          Begins surroundings words settings command journal ∧
          Client.connect settings.server.url settings.server.token
            (.real settings.server.timeout) = .ok client ∧
          "json" ∈ settings.output.formats ∧
          command.Yields (library surroundings.readers settings client)
            (opened surroundings journal) payloads ∧
          let path := Format.resultPath settings.output.directory command.name.word now
          Format.CutShort path payloads surroundings.folder result.folder ∧
            Folder.SameBut (path :: log) surroundings.folder result.folder) ∧
      (result.printed ≠ "" → ∃ settings command journal error,
        Begins surroundings words settings command journal ∧ command.name = .compile ∧
        "json" ∈ settings.output.formats ∧
        (saved settings.output.directory "compile" now [] journal.folder).1 =
          .error (.folder error))) ∧
    (result.ending.exitCode = 0 → ∃ settings command journal client,
      Begins surroundings words settings command journal ∧
      Client.connect settings.server.url settings.server.token (.real settings.server.timeout) =
        .ok client ∧
      ("json" ∉ settings.output.formats →
        Folder.SameBut log surroundings.folder result.folder) ∧
      ("json" ∈ settings.output.formats →
        let path := Format.resultPath settings.output.directory command.name.word now
        ∃ payloads,
          command.Yields (library surroundings.readers settings client)
            (opened surroundings journal) payloads ∧
          Format.Holds path payloads result.folder ∧
          Folder.SameBut (path :: log) surroundings.folder result.folder)) := by
  intro result now log
  rcases run_ends_early_or_begins surroundings words with
    ⟨ending, fails, same⟩ | ⟨settings, command, journal, begins, same⟩
  · have result_eq : result = { ending, folder := surroundings.folder } := same
    rw [result_eq]
    refine ⟨fun _ => ⟨.inl (.refl _), fun printed => absurd rfl printed⟩, fun succeeds => ?_⟩
    exact absurd succeeds fails
  · obtain ⟨answer, later, worked, closes, exits, printed_eq⟩ := begins.exists_worked same
    have closes : Folder.Logged (journalFile surroundings words) later.folder result.folder :=
      closes
    have exits : result.ending.exitCode = 0 ↔ answer = .ok () := exits
    have printed_eq : result.printed = later.printed := printed_eq
    rw [Ne, exits, printed_eq]
    cases worked with
    | stopped held =>
        have folder_eq : later.folder = journal.folder :=
          congrArg Session.Holdings.folder held
        have unprinted : later.printed = "" := congrArg Session.Holdings.printed held
        rw [folder_eq] at closes
        refine ⟨fun _ => ⟨.inl (begins.logged.trans closes).others, fun printed => ?_⟩,
          fun succeeds => ?_⟩
        · exact absurd unprinted printed
        · cases succeeds
    | unasked connects unasked sameFolder =>
        rw [sameFolder] at closes
        refine ⟨fun fails => absurd rfl fails, fun _ => ?_⟩
        exact ⟨settings, command, journal, _, begins, connects,
          fun _ => (begins.logged.trans closes).others, fun asked => absurd asked unasked⟩
    | @saved client payloads answer _ connects asked yields saves compiles =>
        rcases begins.saved_cases saves closes with
          ⟨rfl, holds, others⟩ | ⟨failure, rfl, left⟩
        · refine ⟨fun fails => absurd rfl fails, fun _ => ?_⟩
          exact ⟨settings, command, journal, client, begins, connects,
            fun unasked => absurd asked unasked, fun _ => ⟨payloads, yields, holds, others⟩⟩
        · refine ⟨fun _ => ⟨?_, fun printed => ?_⟩, fun succeeds => ?_⟩
          · rcases left with sameFiles | ⟨broken, others⟩
            · exact .inl sameFiles
            · exact .inr ⟨settings, command, journal, client, payloads, begins, connects, asked,
                yields, broken, others⟩
          · have compiles := compiles printed
            have refused : (saved settings.output.directory command.name.word now payloads
              journal.folder).1 = .error failure := congrArg Prod.fst saves
            rw [yields.eq_nil_of_compile compiles, compiles] at refused
            obtain ⟨error, rfl⟩ := Format.exists_of_saved_nil_error refused
            exact ⟨settings, command, journal, error, begins, compiles, asked, refused⟩
          · cases succeeds

/-- A place to work with a token, with settings in the file of defaults and nothing else. -/
def atWork (defaults : String) : Surroundings where
  environment := [("PLEX_TOKEN", "token")]
  folder := { files := [(["work", "config", "default.yml"], defaults)], home := ["work"] }
  server := {}
  jitter := Binary64.zero false
  now := ⟨⟨2026, 10, 18⟩, 12, 0, 0, 0, some 0⟩

/-- Settings that ask for result files, below a folder that is a file already. -/
def blocked : Surroundings :=
  atWork "output:\n  base_dir: config/default.yml\n  formats: [json]\n"

/-- What was compiled is printed although the run fails. -/
theorem blocked_compile_prints :
    let words := ["compile", "movies", "--section-id", "1"]
    (prepared blocked words).toOption.map (·.2.name) = some .compile ∧
      (run blocked words).ending.exitCode = 1 ∧ (run blocked words).printed ≠ "" := by
  decide +kernel

theorem run_saves_or_leaves_files_at_work :
    let compiling := ["compile", "movies", "--section-id", "1"]
    let unblocked := atWork "output:\n  formats: [json]\n"
    let searching := ["advanced", "--type", "movie", "--section-id", "1"]
    let path := Format.resultPath "output" "advanced" unblocked.localTime
    (run blocked compiling).ending.exitCode ≠ 0 ∧ (run blocked compiling).printed ≠ "" ∧
      Folder.SameBut [] blocked.folder (run blocked compiling).folder ∧
      (∃ settings command journal, Begins blocked compiling settings command journal ∧
        command.name = .compile ∧ "json" ∈ settings.output.formats) ∧
      (run unblocked searching).ending.exitCode = 0 ∧
      (∃ payload, Format.Holds path [payload] (run unblocked searching).folder) ∧
      Folder.SameBut [path] unblocked.folder (run unblocked searching).folder := by
  intro compiling unblocked searching path
  obtain ⟨fails, prints⟩ :
      (run blocked compiling).ending.exitCode ≠ 0 ∧ (run blocked compiling).printed ≠ "" := by
    decide +kernel
  have succeeds : (run unblocked searching).ending.exitCode = 0 := by decide +kernel
  have asks : (prepared unblocked searching).toOption.map (fun both =>
      (both.1.output.directory, both.1.output.formats, both.2.name)) =
        some ("output", ["json"], .advanced) := by decide +kernel
  have unfiled : journalFile unblocked searching = none := by decide +kernel
  have blockedUnfiled : journalFile blocked compiling = none := by decide +kernel
  obtain ⟨left, unsaved⟩ := (run_saves_or_leaves_files blocked compiling).1 fails
  obtain ⟨settings, command, journal, error, begins, compiles, asked, -⟩ := unsaved prints
  rw [blockedUnfiled] at left
  have same : Folder.SameBut [] blocked.folder (run blocked compiling).folder := by
    rcases left with same | ⟨_, _, _, _, _, _, _, _, _, ⟨_, _, _, _, _, breaks, _⟩, _⟩
    · exact same
    · cases breaks
  refine ⟨fails, prints, same, ⟨settings, command, journal, begins, compiles, asked⟩, succeeds, ?_⟩
  obtain ⟨settings, command, journal, client, begins, -, -, saves⟩ :=
    (run_saves_or_leaves_files unblocked searching).2 succeeds
  rw [begins.prepares] at asks
  obtain ⟨directory, formats, advanced⟩ :
      settings.output.directory = "output" ∧ settings.output.formats = ["json"] ∧
        command.name = .advanced := by
    simpa [Except.toOption] using asks
  obtain ⟨payloads, yields, holds, others⟩ := saves (by rw [formats]; decide)
  rw [directory, advanced] at holds others
  rw [unfiled] at others
  refine ⟨?_, others⟩
  cases yields with
  | smart => cases advanced
  | advanced => exact ⟨_, holds⟩
  | compile => cases advanced
  | sections => cases advanced

end Program

end MediaSearch

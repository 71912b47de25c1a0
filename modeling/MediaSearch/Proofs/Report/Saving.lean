import MediaSearch.Command
import MediaSearch.Proofs.Folder.Writing
import MediaSearch.Proofs.Library.Holdings
import MediaSearch.Proofs.Result

/-!
# Keeping payloads and saving them

Reporting an outcome keeps its payload if result files are asked for, and only once everything else
about the outcome has been reported. Ending an activity saves all payloads so far as one document, or
leaves every file as it was, or breaks off in the result file.
-/

set_option autoImplicit false

namespace MediaSearch

open Session (holdings)

/-- One payload more. -/
def Session.Holdings.withPayload (held : Session.Holdings) (payload : Value) : Session.Holdings :=
  { held with payloads := held.payloads ++ [payload] }

/-!
## Saving
-/

namespace Action

variable {session : Session}

theorem runIn_changeFolder_of_ok {edit : Folder → Except Folder.Error Folder} {folder : Folder}
    (edited : edit session.folder = .ok folder) :
    (changeFolder edit).runIn session = (.ok (), { session with folder }) := by
  rw [changeFolder, runIn_bind_of_ok (runIn_get session), edited]
  rfl

theorem runIn_changeFolder_of_error {edit : Folder → Except Folder.Error Folder}
    {error : Folder.Error} (refused : edit session.folder = .error error) :
    (changeFolder edit).runIn session = (.error (.folder error), session) := by
  rw [changeFolder, runIn_bind_of_ok (runIn_get session), refused]
  rfl

theorem runIn_writeFile (path : Path) (text : String) (session : Session) :
    (writeFile path text).runIn session =
      ((session.folder.write path text).1.mapError .folder,
        { session with folder := (session.folder.write path text).2 }) := by
  unfold writeFile
  rw [runIn_bind_of_ok (runIn_get session)]
  dsimp only
  rcases session.folder.write path text with ⟨_ | _, folder⟩
  · rfl
  · rfl

end Action

namespace Format

/-- What comes of writing all payloads to the result file of an activity, told the moment on the
clocks of the place. -/
def saved (directory activity : String) (now : Moment) (payloads : List Value) (folder : Folder) :
    Except Failure Unit × Folder :=
  match Json.write? (.list payloads) with
  | none => (.error .document, folder)
  | some document =>
      match folder.make (resultFolder directory) with
      | .error error => (.error (.folder error), folder)
      | .ok made =>
          let (written, last) := made.write (resultPath directory activity now) document
          (written.mapError .folder, last)

/-- A file holds payloads as one document. -/
def Holds (path : Path) (payloads : List Value) (folder : Folder) : Prop :=
  ∃ document, Json.write? (.list payloads) = some document ∧ folder.read path = .ok document

/-- A file holds payloads as one document, and no other file has changed. -/
def Recorded (path : Path) (payloads : List Value) (before after : Folder) : Prop :=
  Holds path payloads after ∧ Folder.SameBut [path] before after

/-- Writing payloads to a file broke off, for a reason that there are words for, and a front part of
their document is in the file. -/
def CutShort (path : Path) (payloads : List Value) (before after : Folder) : Prop :=
  ∃ document location kept reason, Json.write? (.list payloads) = some document ∧
    before.breaksOff location document = some (kept, reason) ∧
    after.locate path = .ok location ∧
    after.file? location = some (String.ofList (document.toList.take kept))

variable {directory activity : String} {now : Moment} {payloads : List Value} {folder : Folder}

theorem saved_of_no_document (unwritable : Json.write? (.list payloads) = none) :
    saved directory activity now payloads folder = (.error .document, folder) := by
  rw [saved, unwritable]

theorem saved_of_document {document : String} {made : Folder}
    (written : Json.write? (.list payloads) = some document)
    (makes : folder.make (resultFolder directory) = .ok made) :
    saved directory activity now payloads folder =
      ((made.write (resultPath directory activity now) document).1.mapError .folder,
        (made.write (resultPath directory activity now) document).2) := by
  rw [saved, written]
  dsimp only
  rw [makes]

theorem saved_of_not_made {document : String} {error : Folder.Error}
    (written : Json.write? (.list payloads) = some document)
    (refuses : folder.make (resultFolder directory) = .error error) :
    saved directory activity now payloads folder = (.error (.folder error), folder) := by
  rw [saved, written]
  dsimp only
  rw [refuses]

/-- Saving does what it is for, or fails and leaves all files, or breaks off. -/
theorem saved_cases (directory activity : String) (now : Moment) (payloads : List Value)
    (folder : Folder) :
    let path := resultPath directory activity now
    let saving := saved directory activity now payloads folder
    Folder.Grows folder saving.2 ∧
      ((saving.1 = .ok () ∧ Recorded path payloads folder saving.2) ∨
        ∃ failure, saving.1 = .error failure ∧
          ((∀ location, saving.2.file? location = folder.file? location) ∨
            CutShort path payloads folder saving.2 ∧ Folder.SameBut [path] folder saving.2)) := by
  intro path saving
  cases written : Json.write? (.list payloads) with
  | none =>
      have refused : saving = _ := saved_of_no_document written
      rw [refused]
      exact ⟨.refl folder, .inr ⟨_, rfl, .inl fun _ => rfl⟩⟩
  | some document =>
      cases makes : folder.make (resultFolder directory) with
      | error error =>
          have refused : saving = _ := saved_of_not_made written makes
          rw [refused]
          exact ⟨.refl folder, .inr ⟨_, rfl, .inl fun _ => rfl⟩⟩
      | ok made =>
          have wrote : saving = _ := saved_of_document written makes
          rw [wrote]
          obtain ⟨grows, sameFiles⟩ := Folder.make_eq_ok makes
          have apart {location : Location} {text : String} {last : Folder}
              (leads : made.locate path = .ok location)
              (changed : Folder.Changed made location text last) :
              Folder.SameBut [path] folder last :=
            (Folder.SameBut.of_same sameFiles).trans changed.grows
              (Folder.SameBut.of_changed leads changed)
          rcases made.write_cases path document with
            ⟨location, leads, done, changed⟩ |
            ⟨location, kept, reason, leads, breaks, failed, changed⟩ | ⟨error, failed⟩
          · refine ⟨grows.trans changed.grows, .inl ⟨by rw [done]; rfl, ⟨document, written, ?_⟩,
              apart leads changed⟩⟩
            exact Folder.read_eq_ok_iff.mpr ⟨location, changed.grows.locate leads, changed.there⟩
          · refine ⟨grows.trans changed.grows, .inr ⟨.folder ⟨.brokenOff reason, path⟩,
              by rw [failed]; rfl, .inr ⟨⟨document, location, kept, reason, written, ?_,
                changed.grows.locate leads, changed.there⟩, apart leads changed⟩⟩⟩
            rw [← grows.breaksOff]
            exact breaks
          · rw [failed]
            exact ⟨grows, .inr ⟨_, rfl, .inl sameFiles⟩⟩

/-- The document for no payloads has two characters, and there is room for one. -/
example :
    let folder : Folder :=
      { breaksOff := fun _ _ => some (1, "[Errno 28] No space left on device") }
    let now : Moment := ⟨⟨2026, 10, 18⟩, 12, 0, 0, 0, some 0⟩
    let saving := saved "output" "compile" now [] folder
    saving.1.toBool = false ∧
      (saving.2.read (resultPath "output" "compile" now)).toOption = some "[" := by
  decide +kernel

/-- Where there are no payloads, only the folder can be the reason why they are not saved. -/
theorem exists_of_saved_nil_error {failure : Failure}
    (refused : (saved directory activity now [] folder).1 = .error failure) :
    ∃ error, failure = .folder error := by
  have written : Json.write? (.list []) = some "[]" := rfl
  cases makes : folder.make (resultFolder directory) with
  | error error =>
      rw [saved_of_not_made written makes] at refused
      cases refused
      exact ⟨error, rfl⟩
  | ok made =>
      rw [saved_of_document written makes] at refused
      obtain ⟨error, -, rfl⟩ := Result.mapError_eq_error_iff.mp refused
      exact ⟨error, rfl⟩

/-- Ending an activity saves all payloads, and notes it if nothing went wrong. -/
theorem runIn_finish_json (directory activity : String) (session : Session) :
    let saving := saved directory activity session.localTime session.payloads session.folder
    ∃ notes, (finish directory activity .json).runIn session =
      (saving.1, { session with folder := saving.2, notes }) := by
  unfold finish
  rw [Action.runIn_bind_of_ok (Action.runIn_get session)]
  cases written : Json.write? (.list session.payloads) with
  | none =>
      rw [saved_of_no_document written]
      exact ⟨session.notes, rfl⟩
  | some document =>
      dsimp only
      cases makes : session.folder.make (resultFolder directory) with
      | error error =>
          rw [saved_of_not_made written makes,
            Action.runIn_bind_of_error (Action.runIn_changeFolder_of_error makes)]
          exact ⟨session.notes, rfl⟩
      | ok made =>
          rw [saved_of_document written makes,
            Action.runIn_bind_of_ok (Action.runIn_changeFolder_of_ok makes)]
          have wrote := Action.runIn_writeFile
            (resultPath directory activity session.localTime) document
            { session with folder := made }
          dsimp only at wrote
          generalize made.write (resultPath directory activity session.localTime) document =
            attempt at wrote ⊢
          rcases attempt with ⟨error | _, last⟩
          · rw [Action.runIn_bind_of_error wrote]
            exact ⟨session.notes, rfl⟩
          · rw [Action.runIn_bind_of_ok wrote]
            exact ⟨_, rfl⟩

theorem holds_of_finish_json {session later : Session}
    (ran : (finish directory activity .json).runIn session = (.ok (), later)) :
    Holds (resultPath directory activity session.localTime) session.payloads later.folder := by
  obtain ⟨notes, ended⟩ := runIn_finish_json directory activity session
  obtain ⟨-, ⟨done, holds, -⟩ | ⟨failure, refused, -⟩⟩ :=
    saved_cases directory activity session.localTime session.payloads session.folder
  · rw [done] at ended
    cases ended.symm.trans ran
    exact holds
  · rw [refused] at ended
    cases ended.symm.trans ran

/-!
## Formats
-/

/-- The formats that write result files, if files are asked for: the console comes first. -/
def Saves (formats : List Format) : Prop :=
  formats = [.json] ∨ formats = [.console, .json]

theorem saves_of_chosen {names : List String} {formats : List Format}
    (chose : chosen names = .ok formats) :
    ("json" ∈ names ∧ Saves formats) ∨ ("json" ∉ names ∧ formats = [.console]) := by
  dsimp only [chosen] at chose
  split at chose
  · cases chose
  · rename_i nonempty
    obtain rfl := Except.ok.inj chose
    by_cases console : "console" ∈ names <;> by_cases json : "json" ∈ names <;>
      simp [all, name, Saves, console, json] at nonempty ⊢

theorem holdings_present (outcome : Outcome) : (present outcome).Keeps holdings := by
  refine (Action.holdings_note _ _).bind fun _ => ?_
  cases outcome.records.isEmpty with
  | true => exact Action.keeps_pure ()
  | false =>
      exact (Action.keeps_ofExcept _ _).bind fun _ =>
        Action.keeps_forM fun _ => Action.holdings_note _ _

theorem payload_of_report_json {outcome : Outcome} {session later : Session}
    (ran : (report outcome .json).runIn session = (.ok (), later)) :
    ∃ payload, outcome.payload = .ok payload ∧
      later.holdings = session.holdings.withPayload payload := by
  unfold report at ran
  cases made : outcome.payload with
  | ok payload =>
      rw [made] at ran
      cases ran
      exact ⟨payload, rfl, rfl⟩
  | error error =>
      rw [made] at ran
      cases ran

theorem failsKeeping_report_json (outcome : Outcome) :
    (report outcome .json).FailsKeeping holdings := by
  intro session later failure ran
  unfold report at ran
  cases made : outcome.payload with
  | ok payload =>
      rw [made] at ran
      cases ran
  | error error =>
      rw [made] at ran
      cases ran
      rfl

end Format

namespace Reporter

open Format (Saves)

theorem ofSettings_eq_ok {settings : Settings.Output} {reporter : Reporter}
    (chose : ofSettings settings = .ok reporter) :
    reporter.directory = settings.directory ∧
      (("json" ∈ settings.formats ∧ Saves reporter.formats) ∨
        ("json" ∉ settings.formats ∧ reporter.formats = [.console])) := by
  unfold ofSettings at chose
  cases formats : Format.chosen settings.formats with
  | error failure =>
      rw [formats] at chose
      cases chose
  | ok found =>
      rw [formats] at chose
      cases chose
      exact ⟨rfl, Format.saves_of_chosen formats⟩

/-- Finishing concerns the result file alone. -/
theorem finish_of_saves {reporter : Reporter} (saves : Saves reporter.formats)
    (activity : String) :
    reporter.finish activity = Format.finish reporter.directory activity .json := by
  have last : (Format.finish reporter.directory activity .json >>= fun _ => pure PUnit.unit) =
    Format.finish reporter.directory activity .json := bind_pure_unit
  unfold finish
  rcases saves with formats | formats
  · rw [formats]
    exact last
  · rw [formats]
    exact last

theorem finish_of_console {reporter : Reporter} (formats : reporter.formats = [.console])
    (activity : String) : reporter.finish activity = pure () := by
  unfold finish
  rw [formats]
  rfl

/-- Before the payload is kept, all else is reported. -/
theorem exists_report_of_saves {reporter : Reporter} (saves : Saves reporter.formats)
    (outcome : Outcome) :
    ∃ shown : Action Unit, shown.Keeps holdings ∧
      reporter.report outcome = shown >>= fun _ => Format.report outcome .json := by
  have last : (Format.report outcome .json >>= fun _ => pure PUnit.unit) =
    Format.report outcome .json := bind_pure_unit
  unfold report
  rcases saves with formats | formats
  · rw [formats]
    exact ⟨pure (), Action.keeps_pure (), last⟩
  · rw [formats]
    refine ⟨Format.present outcome, Format.holdings_present outcome, ?_⟩
    change (Format.present outcome >>= fun _ => Format.report outcome .json >>= fun _ => pure _) = _
    rw [last]

theorem payload_of_report {reporter : Reporter} (saves : Saves reporter.formats)
    {outcome : Outcome} {session later : Session}
    (ran : (reporter.report outcome).runIn session = (.ok (), later)) :
    ∃ payload, outcome.payload = .ok payload ∧
      later.holdings = session.holdings.withPayload payload := by
  obtain ⟨shown, keeps, same⟩ := exists_report_of_saves saves outcome
  rw [same] at ran
  obtain ⟨_, middle, start, rest⟩ := Action.exists_of_runIn_bind_ok ran
  have kept := keeps session
  rw [start] at kept
  rw [← kept]
  exact Format.payload_of_report_json rest

/-- Where some part of a report fails, no payload is kept. -/
theorem failsKeeping_report {reporter : Reporter} (saves : Saves reporter.formats)
    (outcome : Outcome) : (reporter.report outcome).FailsKeeping holdings := by
  obtain ⟨shown, keeps, same⟩ := exists_report_of_saves saves outcome
  rw [same]
  exact keeps.bind_failsKeeping fun _ => Format.failsKeeping_report_json outcome

theorem holdings_report_of_console {reporter : Reporter} (formats : reporter.formats = [.console])
    (outcome : Outcome) : (reporter.report outcome).Keeps holdings := by
  unfold report
  rw [formats]
  exact (Format.holdings_present outcome).bind fun _ => Action.keeps_pure _

end Reporter

/-!
## Searching and reporting
-/

namespace Command

variable {reporter : Reporter} {search : Action Outcome} {session later : Session}

/-- A search that succeeds and is reported keeps the payload of what it found. -/
theorem payload_of_searchWith (saves : Format.Saves reporter.formats)
    (keeps : search.Keeps holdings)
    (ran : (searchWith reporter search).runIn session = (.ok (), later)) :
    ∃ outcome found payload, search.runIn session = (.ok outcome, found) ∧
      outcome.payload = .ok payload ∧
      later.holdings = session.holdings.withPayload payload := by
  obtain ⟨outcome, found, searched, rest⟩ := Action.exists_of_runIn_bind_ok ran
  obtain ⟨_, noted, note, rest⟩ := Action.exists_of_runIn_bind_ok rest
  cases note
  obtain ⟨payload, made, kept⟩ := Reporter.payload_of_report saves rest
  refine ⟨outcome, found, payload, searched, made, ?_⟩
  have before := keeps session
  rw [searched] at before
  rw [kept, ← before]
  rfl

theorem failsKeeping_searchWith (saves : Format.Saves reporter.formats)
    (keeps : search.Keeps holdings) : (searchWith reporter search).FailsKeeping holdings :=
  keeps.bind_failsKeeping fun outcome => (Action.holdings_note _ _).bind_failsKeeping fun _ =>
    Reporter.failsKeeping_report saves outcome

theorem holdings_searchWith_of_console (formats : reporter.formats = [.console])
    (keeps : search.Keeps holdings) : (searchWith reporter search).Keeps holdings :=
  keeps.bind fun _ => (Action.holdings_note _ _).bind fun _ =>
    Reporter.holdings_report_of_console formats _

end Command

end MediaSearch

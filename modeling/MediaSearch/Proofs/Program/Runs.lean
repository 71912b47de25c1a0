import MediaSearch.Program
import MediaSearch.Proofs.Result
import MediaSearch.Proofs.Session.Runs

/-!
# Runs of the program

A run is prepared from words and settings, does its work in a session, and closes its journal. What
the work leaves in the session is all that the run shows.
-/

set_option autoImplicit false

namespace MediaSearch.Program

/-- The settings and the command of a run, or what ends the run before it has both. -/
def prepared (surroundings : Surroundings) (words : List String) :
    Except Ending (Settings × Command) := do
  let folder := surroundings.folder
  let readers := surroundings.readers
  let start ← (Start.ofWords readers.words folder words).mapError .misused
  let settings ← (Settings.load readers.document folder start.settings Settings.defaultPath
    surroundings.environment).mapError .unsettled
  let command ← (Command.ofWords readers.words start.name start.words).mapError .misused
  return (settings, command)

theorem run_eq (surroundings : Surroundings) (words : List String) :
    run surroundings words =
      match prepared surroundings words with
      | .error ending => { ending, folder := surroundings.folder }
      | .ok (settings, command) => runCommand surroundings settings command := by
  dsimp only [run, prepared]
  cases Start.ofWords surroundings.readers.words surroundings.folder words with
  | error error => rfl
  | ok start =>
      rw [Result.mapError_ok]
      dsimp only [bind, Except.bind]
      cases Settings.load surroundings.readers.document surroundings.folder start.settings
          Settings.defaultPath surroundings.environment with
      | error error => rfl
      | ok settings =>
          rw [Result.mapError_ok]
          dsimp only
          cases Command.ofWords surroundings.readers.words start.name start.words with
          | error error => rfl
          | ok command => rfl

theorem exitCode_of_prepared_error {surroundings : Surroundings} {words : List String}
    {ending : Ending} (fails : prepared surroundings words = .error ending) :
    ending.exitCode ≠ 0 := by
  rcases Result.bind_eq_error_iff.mp fails with misused | ⟨start, -, fails⟩
  · obtain ⟨error, -, rfl⟩ := Result.mapError_eq_error_iff.mp misused
    exact (by decide : (2 : UInt32) ≠ 0)
  · rcases Result.bind_eq_error_iff.mp fails with unsettled | ⟨settings, -, fails⟩
    · obtain ⟨error, -, rfl⟩ := Result.mapError_eq_error_iff.mp unsettled
      exact (by decide : (1 : UInt32) ≠ 0)
    · rcases Result.bind_eq_error_iff.mp fails with misused | ⟨command, -, fails⟩
      · obtain ⟨error, -, rfl⟩ := Result.mapError_eq_error_iff.mp misused
        exact (by decide : (2 : UInt32) ≠ 0)
      · exact absurd fails (Result.pure_ne_error _ _)

/-!
## Work
-/

/-- The client and the reporter of a run, for which its settings are looked at once more. -/
def equipped (settings : Settings) : Except Failure (Client × Reporter) := do
  settings.server.checkToken.mapError .settings
  let client ← Client.connect settings.server.url settings.server.token
    (.real settings.server.timeout)
  let reporter ← Reporter.ofSettings settings.output
  return (client, reporter)

theorem perform_eq (readers : Readers) (settings : Settings) (command : Command) :
    perform readers settings command = Action.ofExcept id (equipped settings) >>= fun equipment =>
      command.execute (library readers settings equipment.1) equipment.2 >>= fun _ =>
        equipment.2.finish command.name.word := by
  unfold perform equipped
  cases settings.server.checkToken with
  | error error => rfl
  | ok _ =>
      cases Client.connect settings.server.url settings.server.token
          (.real settings.server.timeout) with
      | error failure => rfl
      | ok client =>
          cases Reporter.ofSettings settings.output with
          | error failure => rfl
          | ok reporter => rfl

variable {readers : Readers} {settings : Settings} {command : Command} {session : Session}

theorem equipped_eq_ok {client : Client} {reporter : Reporter}
    (equips : equipped settings = .ok (client, reporter)) :
    Client.connect settings.server.url settings.server.token (.real settings.server.timeout) =
        .ok client ∧
      Reporter.ofSettings settings.output = .ok reporter := by
  obtain ⟨_, -, rest⟩ := Result.bind_eq_ok_iff.mp equips
  obtain ⟨connected, connects, rest⟩ := Result.bind_eq_ok_iff.mp rest
  obtain ⟨made, makes, last⟩ := Result.bind_eq_ok_iff.mp rest
  cases Result.pure_eq_ok_iff.mp last
  exact ⟨connects, makes⟩

theorem runIn_perform_of_error {failure : Failure} (fails : equipped settings = .error failure) :
    (perform readers settings command).runIn session = (.error failure, session) := by
  rw [perform_eq, fails]
  rfl

theorem runIn_perform_of_ok {client : Client} {reporter : Reporter}
    (equips : equipped settings = .ok (client, reporter)) :
    (perform readers settings command).runIn session =
      (command.execute (library readers settings client) reporter >>= fun _ =>
        reporter.finish command.name.word).runIn session := by
  rw [perform_eq, equips]
  rfl

/-- The session that the work of a run starts in, with a note of where the journal is kept. -/
def opened (surroundings : Surroundings) (journal : Journal) : Session where
  server := surroundings.server
  now := surroundings.now.toUniversal
  zone := surroundings.zone
  jitter := surroundings.jitter
  folder := journal.folder
  notes := (journal.file.map fun path =>
    ({ level := Note.detailLevel, text := "Logging to " ++ path.text } : Note)).toList

/-- How the work of a run ends. -/
def performed (surroundings : Surroundings) (settings : Settings) (command : Command)
    (journal : Journal) : Except Failure Unit × Session :=
  (perform surroundings.readers settings command).runIn (opened surroundings journal)

/-- The notes of a run: those of its work, and why it failed. -/
def notesOf : Except Failure Unit × Session → List Note
  | (.ok _, session) => session.notes
  | (.error failure, session) =>
      session.notes ++ [⟨Note.errorLevel, "Search failed: " ++ failure.message⟩]

/-- What a run comes to whose work has ended. -/
def closed (surroundings : Surroundings) (journal : Journal)
    (ended : Except Failure Unit × Session) : Result :=
  let journal := (notesOf ended).foldl (Journal.note surroundings.localTime)
    { journal with folder := ended.2.folder }
  { ending := match ended.1 with
      | .ok _ => .succeeded
      | .error _ => .failed
    printed := ended.2.printed
    console := journal.console ++ match ended.1 with
      | .ok _ => ""
      | .error _ => "Aborted!\n"
    requests := ended.2.requests
    pauses := ended.2.pauses
    folder := journal.folder }

theorem work_eq (settings : Settings) (command : Command) (journal : Journal)
    (surroundings : Surroundings) :
    (work surroundings.readers settings command journal.file).run
        { server := surroundings.server
          now := surroundings.now.toUniversal
          zone := surroundings.zone
          jitter := surroundings.jitter
          folder := journal.folder } =
      let ended := performed surroundings settings command journal
      (match ended.1 with
        | .ok _ => true
        | .error _ => false, { ended.2 with notes := notesOf ended }) := by
  have after : ∀ session : Session,
      ((do
        match ← (perform surroundings.readers settings command).run with
        | .ok _ => return true
        | .error failure =>
            modify fun session =>
              { session with
                notes := session.notes ++
                  [⟨Note.errorLevel, "Search failed: " ++ failure.message⟩] }
            return false : StateM Session Bool).run session) =
        let ended := (perform surroundings.readers settings command).runIn session
        (match ended.1 with
          | .ok _ => true
          | .error _ => false, { ended.2 with notes := notesOf ended }) := by
    intro session
    rw [StateT.run_bind]
    cases ran : (perform surroundings.readers settings command).runIn session with
    | mk answer later =>
        have same : (perform surroundings.readers settings command).run.run session =
            (answer, later) := ran
        rw [same]
        cases answer with
        | ok _ => rfl
        | error failure => rfl
  unfold work performed opened
  cases journal.file with
  | none => exact after _
  | some path => exact after _

theorem runCommand_of_unjournaled {surroundings : Surroundings} {error : Folder.Error}
    (refused : Journal.setUp (journalSetup settings.notes command.name) surroundings.localTime
      { folder := surroundings.folder } = .error error) :
    runCommand surroundings settings command =
      { ending := .unjournaled error, folder := surroundings.folder } := by
  unfold runCommand
  rw [refused]

theorem runCommand_of_journaled {surroundings : Surroundings} {journal : Journal}
    (setsUp : Journal.setUp (journalSetup settings.notes command.name) surroundings.localTime
      { folder := surroundings.folder } = .ok journal) :
    runCommand surroundings settings command =
      closed surroundings journal (performed surroundings settings command journal) := by
  unfold runCommand
  rw [setsUp]
  simp only [work_eq]
  rcases performed surroundings settings command journal with ⟨answer | failure, session⟩
  · rfl
  · rfl

end MediaSearch.Program

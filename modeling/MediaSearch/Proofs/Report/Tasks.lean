import MediaSearch.Proofs.Library.Requests
import MediaSearch.Proofs.Report.Saving

/-!
# Tasks one after another

A library may be given any tasks in any order, each at its time, and any of them may fail. Payloads
gather from searches that succeed and from nothing else, and each result file holds all that have
gathered by then.
-/

set_option autoImplicit false

namespace MediaSearch

open Session (holdings)

namespace Library

/-- What a library can be asked without searching it. -/
inductive Question where
  | compile (filter : Filter)
  | compileText (text : String) (sectionId : Option String) (limit : Option Int)
  | resolveText (text : String) (sectionId : Option String) (limit : Option Int)
  | sections

/-- What can be done with a library and a reporter: a search that is reported, a question, and the
end of an activity. -/
inductive Task where
  | search (search : Search)
  | ask (question : Question)
  | finish (activity : String)

/-- A question, without the answer. -/
def Question.action (library : Library) : Question → Action Unit
  | .compile filter => do let _ ← library.compile filter
  | .compileText text sectionId limit => do let _ ← library.compileText text sectionId limit
  | .resolveText text sectionId limit => do let _ ← library.resolveText text sectionId limit
  | .sections => do let _ ← library.sections

def Task.action (library : Library) (reporter : Reporter) : Task → Action Unit
  | .search wanted => Command.searchWith reporter (wanted.action library)
  | .ask question => question.action library
  | .finish activity => reporter.finish activity

/-- The payload that a task adds to those that were kept: that of what a search found, if it is also
reported to the end. -/
def Task.payload? (library : Library) (reporter : Reporter) (session : Session) :
    Task → Option Value
  | .search wanted =>
      match (action library reporter (.search wanted)).runIn session,
          (wanted.action library).runIn session with
      | (.ok _, _), (.ok outcome, _) => outcome.payload.toOption
      | _, _ => none
  | .ask _ => none
  | .finish _ => none

/-- The session after tasks at their times. One that fails does not keep the next from being done.
-/
def runTasks (library : Library) (reporter : Reporter) : List (Moment × Task) → Session → Session
  | [], session => session
  | (now, task) :: rest, session =>
      runTasks library reporter rest
        ((task.action library reporter).runIn { session with now }).2

/-- The payloads that tasks at their times add, in the order of the tasks. -/
def gathered (library : Library) (reporter : Reporter) : List (Moment × Task) → Session → List Value
  | [], _ => []
  | (now, task) :: rest, session =>
      (task.payload? library reporter { session with now }).toList ++
        gathered library reporter rest
          ((task.action library reporter).runIn { session with now }).2

variable {library : Library} {reporter : Reporter}

/-!
## One task
-/

theorem Search.holdings_action (library : Library) (search : Search) :
    (search.action library).Keeps holdings := by
  cases search with
  | text words limit => exact library.holdings_searchText words limit
  | structured value => exact library.holdings_searchStructured value

theorem Question.holdings_action (library : Library) (question : Question) :
    (question.action library).Keeps holdings := by
  cases question with
  | compile filter => exact (library.holdings_compile filter).bind fun _ => Action.keeps_pure _
  | compileText text sectionId limit =>
      exact (library.holdings_compileText text sectionId limit).bind fun _ => Action.keeps_pure _
  | resolveText text sectionId limit =>
      exact (library.holdings_resolveText text sectionId limit).bind fun _ => Action.keeps_pure _
  | sections => exact library.holdings_sections.bind fun _ => Action.keeps_pure _

/-- A search adds its payload to what is held, and changes nothing else that is held. -/
theorem Search.holdings_task (saves : Format.Saves reporter.formats) (search : Search)
    (session : Session) :
    let task := Task.search search
    ((task.action library reporter).runIn session).2.holdings =
      { session.holdings with
        payloads := session.payloads ++ (task.payload? library reporter session).toList } := by
  intro task
  have keeps := search.holdings_action library
  rw [Task.payload?]
  cases ran : (task.action library reporter).runIn session with
  | mk result later =>
      cases result with
      | ok _ =>
          obtain ⟨outcome, found, payload, searched, made, held⟩ :=
            Command.payload_of_searchWith saves keeps ran
          rw [searched]
          simp only [made]
          exact held
      | error failure =>
          have held := Command.failsKeeping_searchWith saves keeps ran
          simp only [Option.toList_none, List.append_nil]
          exact held

/-- Ending an activity is saving what has gathered, and leaves the rest of the session. -/
theorem Task.exists_runIn_finish (library : Library) (saves : Format.Saves reporter.formats)
    (activity : String) (session : Session) :
    let saving :=
      Format.saved reporter.directory activity session.localTime session.payloads session.folder
    ∃ after, ((Task.finish activity).action library reporter).runIn session = (saving.1, after) ∧
      after.folder = saving.2 ∧ after.payloads = session.payloads ∧ after.zone = session.zone := by
  rw [action, Reporter.finish_of_saves saves]
  obtain ⟨notes, ran⟩ := Format.runIn_finish_json reporter.directory activity session
  exact ⟨_, ran, rfl, rfl, rfl⟩

theorem Task.zone_action (saves : Format.Saves reporter.formats) (task : Task)
    (session : Session) :
    ((task.action library reporter).runIn session).2.zone = session.zone := by
  cases task with
  | search search => exact congrArg Session.Holdings.zone (search.holdings_task saves session)
  | ask question =>
      exact congrArg Session.Holdings.zone (question.holdings_action library session)
  | finish activity =>
      obtain ⟨after, ran, -, -, zone⟩ := exists_runIn_finish library saves activity session
      rw [ran, zone]

theorem Task.payloads_action (saves : Format.Saves reporter.formats) (task : Task)
    (session : Session) :
    ((task.action library reporter).runIn session).2.payloads =
      session.payloads ++ (task.payload? library reporter session).toList := by
  cases task with
  | search search =>
      exact congrArg Session.Holdings.payloads (search.holdings_task saves session)
  | ask question =>
      have held := question.holdings_action library session
      rw [payload?, Option.toList_none, List.append_nil]
      exact congrArg Session.Holdings.payloads held
  | finish activity =>
      obtain ⟨after, ran, -, payloads, -⟩ := exists_runIn_finish library saves activity session
      rw [payload?, Option.toList_none, List.append_nil, ran, payloads]

theorem Task.folder_action (saves : Format.Saves reporter.formats) {task : Task}
    (unfinished : ∀ activity, task ≠ .finish activity) (session : Session) :
    ((task.action library reporter).runIn session).2.folder = session.folder := by
  cases task with
  | search search =>
      exact congrArg Session.Holdings.folder (search.holdings_task saves session)
  | ask question =>
      exact congrArg Session.Holdings.folder (question.holdings_action library session)
  | finish activity => exact absurd rfl (unfinished activity)

/-!
## All tasks
-/

theorem payloads_runTasks (saves : Format.Saves reporter.formats) (tasks : List (Moment × Task))
    (session : Session) :
    (runTasks library reporter tasks session).payloads =
      session.payloads ++ gathered library reporter tasks session := by
  induction tasks generalizing session with
  | nil => exact (List.append_nil _).symm
  | cons timed rest ih =>
      obtain ⟨now, task⟩ := timed
      rw [runTasks, ih, task.payloads_action saves, gathered, List.append_assoc]

theorem zone_runTasks (saves : Format.Saves reporter.formats) (tasks : List (Moment × Task))
    (session : Session) :
    (runTasks library reporter tasks session).zone = session.zone := by
  induction tasks generalizing session with
  | nil => rfl
  | cons timed rest ih =>
      obtain ⟨now, task⟩ := timed
      rw [runTasks, ih, task.zone_action saves]

/-- Result files record every successful search once. Whatever tasks were done before, ending an
activity writes the payloads of all searches that succeeded among them, in their order, to the file
of the activity and the time, and leaves all other files; or it fails, since they cannot be saved,
and leaves all files, but for a front part in that file if writing it broke off. The time is that on
the clocks of the place. No other task changes a file. -/
theorem finish_records_searches {settings : Settings.Output} {reporter : Reporter}
    (chosen : Reporter.ofSettings settings = .ok reporter) (asked : "json" ∈ settings.formats)
    (library : Library) (done : List (Moment × Task)) (start : Session)
    (fresh : start.payloads = []) :
    let before := runTasks library reporter done start
    let payloads := gathered library reporter done start
    (∀ now activity,
      let localTime := now.inZone start.zone
      let path := Format.resultPath settings.directory activity localTime
      match ((Task.finish activity).action library reporter).runIn { before with now } with
      | (.ok _, after) => Format.Recorded path payloads before.folder after.folder
      | (.error failure, after) =>
          (Format.saved settings.directory activity localTime payloads before.folder).1 =
              .error failure ∧
            ((∀ location, after.folder.file? location = before.folder.file? location) ∨
              Format.CutShort path payloads before.folder after.folder ∧
                Folder.SameBut [path] before.folder after.folder)) ∧
    ∀ now (task : Task), (∀ activity, task ≠ .finish activity) →
      ((task.action library reporter).runIn { before with now }).2.folder = before.folder := by
  intro before payloads
  obtain ⟨directory, formats⟩ := Reporter.ofSettings_eq_ok chosen
  have saves : Format.Saves reporter.formats := by
    rcases formats with ⟨-, saves⟩ | ⟨unasked, -⟩
    · exact saves
    · exact absurd asked unasked
  have held : before.payloads = payloads := by
    rw [payloads_runTasks saves, fresh, List.nil_append]
  refine ⟨fun now activity => ?_, fun now task unfinished => ?_⟩
  · intro localTime path
    obtain ⟨after, ran, folder, -⟩ :=
      Task.exists_runIn_finish library saves activity { before with now }
    have same : Format.saved reporter.directory activity (now.inZone before.zone) before.payloads
        before.folder = Format.saved settings.directory activity localTime payloads before.folder := by
      rw [directory, held, zone_runTasks saves]
    have folder : after.folder = _ := folder.trans (congrArg Prod.snd same)
    have ran := ran.trans (congrArg (fun saving => (saving.1, after)) same)
    obtain ⟨-, outcome⟩ :=
      Format.saved_cases settings.directory activity localTime payloads before.folder
    rw [← folder] at outcome
    rw [ran]
    rcases outcome with ⟨done, recorded⟩ | ⟨failure, refused, left⟩
    · rw [done]
      exact recorded
    · rw [refused]
      exact ⟨rfl, left⟩
  · exact Task.folder_action saves unfinished { before with now }

/-- The second file of the same second takes the place of the first and holds both searches. The one
that failed in between is not among them. -/
theorem finish_records_searches_again :
    let settings : Settings.Output := ⟨"output", ["json"]⟩
    let reporter : Reporter := ⟨[.json], "output"⟩
    let library : Library := { client := ⟨Client.defaultUrl, "token", Client.defaultTimeout⟩ }
    let now : Moment := ⟨⟨2026, 10, 18⟩, 12, 0, 0, 0, some 0⟩
    let start : Session := { now }
    let films : Task :=
      .search (.structured (.object [("type", .text "movie"), ("sectionId", .text "1")]))
    let done : List (Moment × Task) := [(now, films), (now, .search (.structured .null)),
      (now, .ask .sections), (now, .finish "advanced"), (now, films)]
    let before := runTasks library reporter done start
    let payloads := gathered library reporter done start
    let after := (((Task.finish "advanced").action library reporter).runIn { before with now }).2
    Reporter.ofSettings settings = .ok reporter ∧ "json" ∈ settings.formats ∧
      start.payloads = [] ∧ payloads.length = 2 ∧
      Format.Recorded (Format.resultPath "output" "advanced" now) payloads before.folder
        after.folder := by
  intro settings reporter library now start films done before payloads after
  have chosen : Reporter.ofSettings settings = .ok reporter := by rfl
  have asked : "json" ∈ settings.formats := by decide
  have two : payloads.length = 2 := by decide +kernel
  have succeeds : (((Task.finish "advanced").action library reporter).runIn
      { before with now }).1.toBool = true := by decide +kernel
  refine ⟨chosen, asked, rfl, two, ?_⟩
  have recorded := (finish_records_searches chosen asked library done start rfl).1 now "advanced"
  cases ran : ((Task.finish "advanced").action library reporter).runIn { before with now } with
  | mk result last =>
      cases result with
      | error failure =>
          rw [ran] at succeeds
          cases succeeds
      | ok _ =>
          have same : after = last := congrArg Prod.snd ran
          have here : now.inZone start.zone = now := by decide
          rw [ran, here] at recorded
          rw [same]
          exact recorded

end Library

end MediaSearch

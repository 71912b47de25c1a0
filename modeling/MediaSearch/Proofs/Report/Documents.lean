import MediaSearch.Proofs.Library.Rehearsal
import MediaSearch.Proofs.Program.Results
import MediaSearch.Proofs.Report.Payloads

/-!
# Printed and written documents

What compiling prints and what result files hold is JSON of the data that it was made from, unless a
number in the data is an infinity or none at all: then it is no JSON. A text asks for such a number
with a rating of hundreds of digits, and a server sends one as a rating in words.
-/

set_option autoImplicit false

namespace MediaSearch

/-!
## Compiled texts
-/

namespace Signals

/-- The ratings that a text asks for are finite. -/
def HasFiniteRatings (signals : Signals) : Prop :=
  (∀ rating ∈ signals.minRating, rating.IsFinite) ∧ ∀ rating ∈ signals.maxRating, rating.IsFinite

instance : DecidablePred HasFiniteRatings :=
  fun _ => inferInstanceAs (Decidable (_ ∧ _))

/-- The filter that signals are resolved to, with a section if one is given. -/
def resolved (signals : Signals) (sectionId : Option String) (limit : Option Int) : Filter :=
  .resolve (some signals.toFilter)
    ((sectionId.filter fun id => !id.isEmpty).map fun id => { sectionId := some id }) limit

variable (signals : Signals) (sectionId : Option String) (limit : Option Int)

/-- Neither a section nor what is filled in touches the numbers that were found. All but ratings are
whole. -/
theorem numbers_resolved :
    let filter := signals.resolved sectionId limit
    filter.minRating = signals.minRating.map .real ∧
      filter.maxRating = signals.maxRating.map .real ∧
      ∃ shortest longest newest : Option Int, filter.minMinutes = shortest.map .int ∧
        filter.maxMinutes = longest.map .int ∧ filter.addedWithinDays = newest.map .int := by
  unfold resolved
  cases sectionId.filter fun id => !id.isEmpty with
  | none => exact ⟨rfl, rfl, _, _, _, rfl, rfl, rfl⟩
  | some id => exact ⟨rfl, rfl, _, _, _, rfl, rfl, rfl⟩

theorem isFinite_resolved_iff :
    (signals.resolved sectionId limit).IsFinite ↔ signals.HasFiniteRatings := by
  obtain ⟨lowest, highest, _, _, _, shortest, longest, newest⟩ :=
    signals.numbers_resolved sectionId limit
  have whole (amount : Option Int) :
      ∀ scalar ∈ amount.map (Scalar.number ∘ Number.int), scalar.IsFinite :=
    Scalar.isFinite_of_mem_map_int
  rw [Filter.isFinite_iff, lowest, highest, shortest, longest, newest]
  simp only [List.forall_mem_cons, Option.map_map, iff_true_intro (whole _), List.not_mem_nil,
    false_implies, implies_true, and_true]
  exact and_congr (Scalar.forall_mem_map_real_isFinite_iff _)
    (Scalar.forall_mem_map_real_isFinite_iff _)

end Signals

namespace Command

/-- What is printed of a filter and the query that it is compiled into. -/
def compilation (filter : Filter) (query : Query) : Value :=
  .object [("filters", filter.toValue), ("compiled", query.toValue)]

variable {signals : Signals} {sectionId : Option String} {limit : Option Int} {filter : Filter}
  {sections : List Section} {now : Moment} {query : Query}

theorem isData_compilation (compiled : Query.ofFilter filter sections now = .ok query) :
    (compilation filter query).IsData := by
  have distinct := (Query.wellFormed_of_ofFilter compiled).distinct
  refine .object (by simp) ?_
  simp only [List.forall_mem_cons]
  exact ⟨filter.isData_toValue, Query.isData_toValue distinct, List.forall_mem_nil _⟩

/-- The parameters of a query repeat the ratings of its filter. -/
theorem allFinite_compilation_iff
    (compiled : Query.ofFilter (signals.resolved sectionId limit) sections now = .ok query) :
    (compilation (signals.resolved sectionId limit) query).AllFinite ↔
      signals.HasFiniteRatings := by
  obtain ⟨-, -, _, _, _, shortest, longest, -⟩ := signals.numbers_resolved sectionId limit
  have whole (amount : Option Int) :
      ∀ scalar ∈ Query.durationValue (amount.map .int), scalar.IsFinite := by
    cases amount <;> simp [Query.durationValue, Number.scale, Scalar.IsFinite]
  obtain ⟨_, _, -, -, rfl⟩ := Query.ofFilter_eq_ok_iff.mp compiled
  rw [compilation, Value.allFinite_object_iff]
  simp only [List.forall_mem_cons, Filter.allFinite_toValue_iff, Query.allFinite_toValue_iff,
    Signals.isFinite_resolved_iff]
  constructor
  · exact fun finite => finite.1
  · intro finite
    refine ⟨finite, ?_, List.forall_mem_nil _⟩
    apply Query.isFinite_of_mem_parametersOf
    · exact (signals.isFinite_resolved_iff sectionId limit).mpr finite
    · rw [shortest]
      exact whole _
    · rw [longest]
      exact whole _

theorem exists_signals_of_resolveText {library : Library} {text : String} {session found : Session}
    (ran : (library.resolveText text sectionId limit).runIn session = (.ok filter, found)) :
    ∃ signals, Signals.ofText text = .ok signals ∧
      filter = signals.resolved sectionId (library.limitOr limit) := by
  obtain ⟨extracted, _, extracts, ran⟩ := Action.exists_of_runIn_bind_ok ran
  cases ran
  obtain ⟨signals, _, read, extracts⟩ := Action.exists_of_runIn_bind_ok extracts
  obtain ⟨_, _, -, returned⟩ := Action.exists_of_runIn_bind_ok extracts
  cases returned
  exact ⟨signals, Action.eq_ok_of_runIn_ofExcept read, rfl⟩

/-- What compiling prints of a text is JSON of the filter and the query that it comes to, unless it
asks for a rating that is not finite. -/
theorem exists_document_of_compile {library : Library} {reporter : Reporter} {text : String}
    {session later : Session}
    (ran : (execute library reporter (.compile text sectionId limit)).runIn session =
      (.ok (), later)) :
    ∃ signals query compiled document, Signals.ofText text = .ok signals ∧
      (library.compileText text sectionId limit).runIn session = (.ok query, compiled) ∧
      later.printed = session.printed ++ document ∧
      ∀ value, Json.IsText document.toList value ↔ signals.HasFiniteRatings ∧
        value = compilation (signals.resolved sectionId (library.limitOr limit)) query := by
  obtain ⟨filter, found, resolves, ran⟩ := Action.exists_of_runIn_bind_ok ran
  obtain ⟨query, compiled, compiles, ran⟩ := Action.exists_of_runIn_bind_ok ran
  obtain ⟨signals, read, rfl⟩ := exists_signals_of_resolveText resolves
  obtain ⟨sections, now, ofFilter⟩ := Library.exists_ofFilter_of_compile compiles
  obtain ⟨document, wrote, rfl⟩ := exists_document_of_printDocument ran
  have compilesText : (library.compileText text sectionId limit).runIn session =
      (.ok query, compiled) := (Action.runIn_bind_of_ok resolves).trans compiles
  refine ⟨signals, query, compiled, document ++ "\n", read, compilesText, ?_, fun value => ?_⟩
  · -- Nothing is printed before the document.
    have held := library.holdings_compileText text sectionId limit session
    rw [compilesText] at held
    exact congrArg (·.printed ++ (document ++ "\n")) held
  · rw [String.toList_append]
    have lineEnd : ∀ character ∈ "\n".toList, Json.isGap character = true :=
      List.forall_mem_singleton.mpr rfl
    rw [Json.isText_write?_iff (isData_compilation ofFilter) wrote lineEnd value,
      allFinite_compilation_iff ofFilter]

end Command

/-!
## Result files
-/

namespace Format

/-- Reports outcomes for the result file of an activity, and ends the activity. -/
def conclude (directory activity : String) (outcomes : List Outcome) : Action Unit := do
  outcomes.forM fun outcome => report outcome .json
  finish directory activity .json

/-- Reports that succeed keep one payload for each outcome, in order. -/
theorem payloads_of_reports {outcomes : List Outcome} {session later : Session}
    (ran : (outcomes.forM fun outcome => report outcome .json).runIn session = (.ok (), later)) :
    ∃ payloads, outcomes.mapM Outcome.payload = .ok payloads ∧
      later.localTime = session.localTime ∧ later.payloads = session.payloads ++ payloads := by
  induction outcomes generalizing session with
  | nil =>
      cases ran
      exact ⟨[], rfl, rfl, (List.append_nil _).symm⟩
  | cons outcome outcomes ih =>
      obtain ⟨_, reported, first, rest⟩ := Action.exists_of_runIn_bind_ok ran
      obtain ⟨payload, made, held⟩ := payload_of_report_json first
      obtain ⟨payloads, others, sameTime, kept⟩ := ih rest
      have time_eq : reported.localTime = session.localTime :=
        congrArg (fun held => held.now.inZone held.zone) held
      have payloads_eq : reported.payloads = session.payloads ++ [payload] :=
        congrArg (·.payloads) held
      refine ⟨payload :: payloads, ?_, sameTime.trans time_eq, ?_⟩
      · rw [List.mapM_cons, made, others]
        rfl
      · rw [kept, payloads_eq, List.append_assoc, List.singleton_append]

/-- A result file is JSON of the payloads of its outcomes, unless one of them has a number that is
not finite. -/
theorem exists_document_of_conclude {directory activity : String} {outcomes : List Outcome}
    {session later : Session} (fresh : session.payloads = [])
    (ran : (conclude directory activity outcomes).runIn session = (.ok (), later)) :
    ∃ payloads document, outcomes.mapM Outcome.payload = .ok payloads ∧
      later.folder.read (resultPath directory activity session.localTime) = .ok document ∧
      ∀ value, Json.IsText document.toList value ↔
        (∀ outcome ∈ outcomes, outcome.IsFinite) ∧ value = .list payloads := by
  obtain ⟨_, reported, reports, finished⟩ := Action.exists_of_runIn_bind_ok ran
  obtain ⟨payloads, made, sameTime, kept⟩ := payloads_of_reports reports
  rw [fresh, List.nil_append] at kept
  obtain ⟨document, wrote, read⟩ := holds_of_finish_json finished
  rw [kept] at wrote
  rw [sameTime] at read
  have data : (Value.list payloads).IsData := by
    refine .list ((Result.forall_mem_iff_of_mapM (fun _ payload written => ?_) made).mpr
      fun _ _ => trivial)
    exact iff_true_intro (Outcome.isData_payload written)
  have finite : (Value.list payloads).AllFinite ↔ ∀ outcome ∈ outcomes, outcome.IsFinite := by
    rw [Value.allFinite_list_iff]
    exact Result.forall_mem_iff_of_mapM (fun _ _ => Outcome.allFinite_payload_iff) made
  refine ⟨payloads, document, made, read, fun value => ?_⟩
  have denotes := Json.isText_write?_iff data wrote Json.isGap_of_mem_nil value
  rw [List.append_nil] at denotes
  rw [denotes, finite]

end Format

/-- Whatever is printed of a text that is compiled and whatever is written of outcomes, it is JSON and
denotes the data that it was made from, if the ratings in the text, in the filters and of the records
are finite. If one of them is not, it is no JSON. -/
theorem documents_denote_finite_data (library : Library) (reporter : Reporter) (session : Session) :
    (∀ text sectionId limit later,
      (Command.execute library reporter (.compile text sectionId limit)).runIn session =
        (.ok (), later) →
      ∃ signals query compiled document, Signals.ofText text = .ok signals ∧
        (library.compileText text sectionId limit).runIn session = (.ok query, compiled) ∧
        later.printed = session.printed ++ document ∧
        ∀ value, Json.IsText document.toList value ↔ signals.HasFiniteRatings ∧
          value = Command.compilation (signals.resolved sectionId (library.limitOr limit)) query) ∧
    ∀ directory activity outcomes later, session.payloads = [] →
      (Format.conclude directory activity outcomes).runIn session = (.ok (), later) →
      ∃ payloads document, outcomes.mapM Outcome.payload = .ok payloads ∧
        later.folder.read (Format.resultPath directory activity session.localTime) = .ok document ∧
        ∀ value, Json.IsText document.toList value ↔
          (∀ outcome ∈ outcomes, outcome.IsFinite) ∧ value = .list payloads :=
  ⟨fun _ _ _ _ => Command.exists_document_of_compile,
    fun _ _ _ _ => Format.exists_document_of_conclude⟩

/-- An outcome of a structured search for films. -/
def filmOutcome (records : List Record) : Outcome :=
  ⟨"Found 1 result(s)", none, none, { type := some "movie", sectionId := some "1" }, records⟩

theorem documents_denote_finite_data_of_film :
    let library : Library := { client := ⟨Client.defaultUrl, "token", Client.defaultTimeout⟩ }
    let reporter : Reporter := ⟨[.json], "output"⟩
    let start : Session := { now := ⟨⟨2026, 10, 18⟩, 12, 0, 0, 0, some 0⟩ }
    let compiling := (Command.execute library reporter
      (.compile "movies rated above 7.5" (some "1") none)).runIn start
    let film : Entries := [("ratingKey", .text "1"), ("title", .text "Alien"),
      ("type", .text "movie"), ("rating", .text "8.4")]
    let concluding := (Format.conclude "output" "advanced"
      [filmOutcome [Record.lenient Moment.ofIsoText? film]]).runIn start
    compiling.1.toBool = true ∧ concluding.1.toBool = true ∧
      (∃ value, Json.IsText compiling.2.printed.toList value) ∧
      ∃ document, concluding.2.folder.read
          (Format.resultPath "output" "advanced" start.localTime) = .ok document ∧
        ∃ value, Json.IsText document.toList value := by
  intro library reporter start compiling film concluding
  have compiles : compiling.1.toBool = true := by decide +kernel
  have concludes : concluding.1.toBool = true := by decide +kernel
  refine ⟨compiles, concludes, ?_, ?_⟩
  · have ratings : ∀ signals ∈ (Signals.ofText "movies rated above 7.5").toOption,
        signals.HasFiniteRatings := by decide +kernel
    have ran : compiling = (.ok (), compiling.2) := Action.runIn_eq_ok_of_toBool compiles
    obtain ⟨signals, _, _, _, read, -, printed, denotes⟩ :=
      (documents_denote_finite_data library reporter start).1 _ _ _ compiling.2 ran
    rw [read] at ratings
    have printed : compiling.2.printed = _ := printed.trans String.empty_append
    exact ⟨_, printed ▸ (denotes _).mpr ⟨ratings signals rfl, rfl⟩⟩
  · have finite : ∀ outcome ∈ [filmOutcome [Record.lenient Moment.ofIsoText? film]], outcome.IsFinite := by
      decide +kernel
    have ran : concluding = (.ok (), concluding.2) := Action.runIn_eq_ok_of_toBool concludes
    obtain ⟨_, document, -, read, denotes⟩ :=
      (documents_denote_finite_data library reporter start).2 _ _ _ concluding.2 rfl ran
    exact ⟨document, read, _, (denotes _).mpr ⟨finite, rfl⟩⟩

/-- A rating that a server sends in a word for infinity gets into the result file, which then is no
JSON. -/
theorem document_of_infinite_rating :
    let film : Entries := [("ratingKey", .text "1"), ("title", .text "Alien"),
      ("type", .text "movie"), ("rating", .text "inf")]
    let start : Session := { now := ⟨⟨2026, 10, 18⟩, 12, 0, 0, 0, some 0⟩ }
    ∃ records later document, Record.ofEntries Moment.ofIsoText? [film] = .ok records ∧
      (Format.conclude "output" "advanced" [filmOutcome records]).runIn start = (.ok (), later) ∧
      later.folder.read (Format.resultPath "output" "advanced" start.localTime) = .ok document ∧
      ∀ value, ¬ Json.IsText document.toList value := by
  intro film start
  have read : Record.ofEntries Moment.ofIsoText? [film] = .ok [Record.lenient Moment.ofIsoText? film] := rfl
  let concluding := (Format.conclude "output" "advanced"
    [filmOutcome [Record.lenient Moment.ofIsoText? film]]).runIn start
  have concludes : concluding.1.toBool = true := by decide +kernel
  have ran : concluding = (.ok (), concluding.2) := Action.runIn_eq_ok_of_toBool concludes
  obtain ⟨_, document, -, written, denotes⟩ := Format.exists_document_of_conclude rfl ran
  refine ⟨_, concluding.2, document, read, ran, written, fun value isText => ?_⟩
  have infinite : ¬ (filmOutcome [Record.lenient Moment.ofIsoText? film]).IsFinite := by decide +kernel
  exact infinite (((denotes value).mp isText).1 _ List.mem_cons_self)

end MediaSearch

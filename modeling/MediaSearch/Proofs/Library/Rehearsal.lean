import MediaSearch.Proofs.Client.Requests
import MediaSearch.Proofs.Library.Twins

/-!
# Compiling as a rehearsal for searching

A text can be compiled without being searched for. Doing so asks for the same sections and meets the
same failures as the search itself, and it gives the query that the search then asks for.
-/

set_option autoImplicit false

namespace MediaSearch.Library

open Session (AlikeButNotes)

/-!
## Compiling
-/

theorem silent_extract (text : String) : (extract text).Silent :=
  (Action.silent_ofExcept _ _).bind fun _ =>
    (Action.silent_note _ _).bind fun _ => Action.silent_pure _

theorem asks_candidates (library : Library) (filter : Filter) :
    (library.candidates filter).Asks library.client.directoryRequest 0 Client.maxAttempts := by
  unfold candidates
  by_cases unnamed : (filter.sectionId.getD "").isEmpty
  · rw [if_pos unnamed]
    exact (library.client.asks_sectionEntries.bind_silent fun _ => Action.silent_pure _).weaken
  · rw [if_neg unnamed]
    exact (Action.silent_pure []).asks _ _

/-- Compiling sends what listing the sections sends, and nothing after that. -/
theorem asks_compile_of_candidates {library : Library} {filter : Filter} {least most : Nat}
    (asks : (library.candidates filter).Asks library.client.directoryRequest least most) :
    (library.compile filter).Asks library.client.directoryRequest least most :=
  asks.bind_silent fun _ => Action.silent_get.bind fun _ =>
    (Action.silent_ofExcept _ _).bind fun _ =>
      (Action.silent_forM fun _ => Action.silent_note _ _).bind fun _ => Action.silent_pure _

theorem asks_compile (library : Library) (filter : Filter) :
    (library.compile filter).Asks library.client.directoryRequest 0 Client.maxAttempts :=
  asks_compile_of_candidates (library.asks_candidates filter)

/-- Whatever sections were listed and whatever the time was, a query that was compiled comes from
its filter. -/
theorem exists_ofFilter_of_compile {library : Library} {filter : Filter} {query : Query}
    {session later : Session}
    (compiled : (library.compile filter).runIn session = (.ok query, later)) :
    ∃ sections now, Query.ofFilter filter sections now = .ok query := by
  obtain ⟨sections, listed, -, compiled⟩ := Action.exists_of_runIn_bind_ok compiled
  obtain ⟨_, _, seen, compiled⟩ := Action.exists_of_runIn_bind_ok compiled
  obtain ⟨found, _, ofFilter, compiled⟩ := Action.exists_of_runIn_bind_ok compiled
  obtain ⟨_, _, -, returned⟩ := Action.exists_of_runIn_bind_ok compiled
  cases returned
  exact ⟨sections, _, Action.eq_ok_of_runIn_ofExcept ofFilter⟩

/-!
## Searching
-/

/-- A search goes as far as its rehearsal: it fails in the same way after the same requests, or it
then asks for the items of the section of the query, with the parameters of the query in their order
and the page behind them, and for nothing else. There may be several attempts at the one request. -/
def Follows {α : Type} (library : Library) (search : Except Failure α × Session) :
    (rehearsal : Except Failure Query × Session) → Prop
  | (.ok query, rehearsed) => ∃ attempts, 1 ≤ attempts ∧ attempts ≤ Client.maxAttempts ∧
      search.2.requests = rehearsed.requests ++
        List.replicate attempts (library.client.itemsRequest query.sectionId
          (query.parameters ++ Client.pageParameters query.window))
  | (.error failure, rehearsed) =>
      search.1 = .error failure ∧ search.2.requests = rehearsed.requests

theorem search_follows_compile (library : Library) (filter : Filter) (session : Session) :
    library.Follows ((library.search filter).runIn session)
      ((library.compile filter).runIn session) := by
  cases ran : (library.compile filter).runIn session with
  | mk result compiled =>
      cases result with
      | error failure =>
          have searched : (library.search filter).runIn session = (.error failure, compiled) :=
            Action.runIn_bind_of_error ran
          rw [searched]
          exact ⟨rfl, rfl⟩
      | ok query =>
          obtain ⟨sections, now, ofFilter⟩ := exists_ofFilter_of_compile ran
          have asks := library.client.asks_itemEntries query
          rw [Client.requestParameters_of_ofFilter ofFilter] at asks
          rw [search, Action.runIn_bind_of_ok ran]
          refine asks.bind_silent (fun items => ?_) compiled
          exact (Action.silent_note _ _).bind fun _ => Action.silent_ofExcept _ _

/-- What is made of the records of a search sends no request, so that the search still follows. -/
theorem Follows.report {α β : Type} {library : Library} {search : Action α} {session : Session}
    {rehearsal : Except Failure Query × Session} {report : α → Action β}
    (follows : library.Follows (search.runIn session) rehearsal)
    (silent : ∀ found, (report found).Silent) :
    library.Follows ((search >>= report).runIn session) rehearsal := by
  have sent : ((search >>= report).runIn session).2.requests = (search.runIn session).2.requests :=
    Action.requests_bind silent session
  obtain ⟨result, rehearsed⟩ := rehearsal
  cases result with
  | ok query =>
      obtain ⟨attempts, least, most, asked⟩ := follows
      exact ⟨attempts, least, most, sent.trans asked⟩
  | error failure =>
      obtain ⟨failed, asked⟩ := follows
      refine ⟨?_, sent.trans asked⟩
      rw [Action.runIn_bind_of_error (Prod.ext failed rfl)]

theorem Follows.of_alikeButNotes {α : Type} {library : Library}
    {search : Except Failure α × Session} {filter : Filter} {first second : Session}
    (alike : AlikeButNotes first second)
    (follows : library.Follows search ((library.compile filter).runIn second)) :
    library.Follows search ((library.compile filter).runIn first) := by
  obtain ⟨sameResult, alikeAfter⟩ :=
    library.client.twins_alikeButNotes.agree_compile library.limit library.readDate filter first
      second alike
  have sameRequests := alikeAfter.requests_eq
  generalize (library.compile filter).runIn first = run at *
  generalize (library.compile filter).runIn second = otherRun at *
  obtain ⟨result, rehearsed⟩ := run
  obtain ⟨otherResult, otherRehearsed⟩ := otherRun
  obtain rfl : result = otherResult := sameResult
  cases result with
  | ok query =>
      obtain ⟨attempts, least, most, asked⟩ := follows
      exact ⟨attempts, least, most, by rw [asked, sameRequests]⟩
  | error failure => exact ⟨follows.1, follows.2.trans sameRequests.symm⟩

/-!
## Texts
-/

private theorem compileText_eq (library : Library) (text : String) (limit : Option Int) :
    library.compileText text none limit = extract text >>= fun extracted =>
      library.compile (Filter.resolve (some extracted) none (library.limitOr limit)) := by
  simp only [compileText, resolveText, bind_assoc, pure_bind]
  rfl

/-- Compiling a text rehearses the search for it. Requests for the directory of sections are all
that compiling sends, and the search follows. -/
theorem searchText_follows_compileText (library : Library) (text : String) (limit : Option Int)
    (session : Session) :
    let rehearsal := (library.compileText text none limit).runIn session
    let search := (library.searchText text limit).runIn session
    (∃ listings, listings ≤ Client.maxAttempts ∧ rehearsal.2.requests =
      session.requests ++ List.replicate listings library.client.directoryRequest) ∧
    library.Follows search rehearsal := by
  intro rehearsal search
  have rehearsed : rehearsal = (extract text >>= fun extracted =>
      library.compile (Filter.resolve (some extracted) none (library.limitOr limit))).runIn
        session := by
    rw [← compileText_eq]
  rw [rehearsed]
  constructor
  · have asks := (silent_extract text).bind_asks fun extracted =>
      library.asks_compile (Filter.resolve (some extracted) none (library.limitOr limit))
    obtain ⟨listings, -, bounded, asked⟩ := asks session
    exact ⟨listings, bounded, asked⟩
  · cases ran : (extract text).runIn session with
    | mk result read =>
        cases result with
        | error failure =>
            have searched : search = (.error failure, read) := Action.runIn_bind_of_error ran
            rw [searched, Action.runIn_bind_of_error ran]
            exact ⟨rfl, rfl⟩
        | ok extracted =>
            -- The search takes a note of what the text comes to before it compiles that.
            let resolved := Filter.resolve (some extracted) none (library.limitOr limit)
            have alike : AlikeButNotes read _ := AlikeButNotes.after_note Note.infoLevel
              ("Smart search " ++ Text.quoted text ++ " -> " ++ resolved.toValue.quoted) read
            have follows := (library.search_follows_compile resolved _).of_alikeButNotes alike
            have searched : search = _ := Action.runIn_bind_of_ok ran
            rw [searched, Action.runIn_bind_of_ok ran]
            exact follows.report fun records => Action.silent_pure _

end MediaSearch.Library

import MediaSearch.Proofs.Client.Attempts
import MediaSearch.Proofs.Library.Holdings
import MediaSearch.Proofs.Library.Rehearsal
import MediaSearch.Proofs.Query.Failure
import MediaSearch.Proofs.Signals.Extraction

/-!
# The requests of a search

A search lists the sections if its filter names none, and then asks for items, each in one run of
attempts at the same request. Whatever stops it leaves out what would have come next. Compiling asks
for no items, and resolving a text asks for nothing.
-/

set_option autoImplicit false

namespace MediaSearch

/-- A filter that names no section to be searched. An empty name counts as none. -/
def Filter.Unplaced (filter : Filter) : Prop :=
  ∀ id ∈ filter.sectionId, id = ""

instance (filter : Filter) : Decidable filter.Unplaced :=
  inferInstanceAs (Decidable (∀ id ∈ filter.sectionId, id = ""))

theorem Filter.unplaced_iff {filter : Filter} :
    filter.Unplaced ↔ (filter.sectionId.getD "").isEmpty := by
  unfold Unplaced
  cases filter.sectionId <;> simp

namespace Client

theorem directoryRequest_url_ne (client : Client) (sectionId : String) :
    client.directoryRequest.url ≠ client.baseUrl ++ itemsPath sectionId := by
  intro same
  have lengths := congrArg String.length same
  simp only [directoryRequest, itemsPath, String.length_append] at lengths
  have slash : "/".length = 1 := rfl
  omega

end Client

namespace Library

/-!
## Compiling
-/

/-- The sections that a filter may be placed in. Only a filter without a place has them listed. -/
def offered (library : Library) (session : Session) (filter : Filter) :
    Except Failure (List Section) :=
  if filter.Unplaced then (library.sections.runIn session).1 else .ok []

/-- The query that a filter is compiled into, with the sections as the session lists them. -/
def compiled (library : Library) (session : Session) (filter : Filter) : Except Failure Query := do
  let sections ← library.offered session filter
  (Query.ofFilter filter sections session.now).mapError .query

theorem runIn_candidates_fst (library : Library) (filter : Filter) (session : Session) :
    ((library.candidates filter).runIn session).1 = library.offered session filter := by
  unfold candidates offered
  by_cases unplaced : filter.Unplaced
  · rw [if_pos unplaced, if_pos (Filter.unplaced_iff.mp unplaced)]
  · rw [if_neg unplaced, if_neg (mt Filter.unplaced_iff.mpr unplaced)]
    rfl

theorem runIn_compile_fst (library : Library) (filter : Filter) (session : Session) :
    ((library.compile filter).runIn session).1 = library.compiled session filter := by
  have offers := library.runIn_candidates_fst filter session
  have now_eq : ((library.candidates filter).runIn session).2.now = session.now :=
    congrArg Session.Holdings.now (library.holdings_candidates filter session)
  rw [compiled, ← offers]
  cases ran : (library.candidates filter).runIn session with
  | mk result later =>
      rw [ran] at now_eq
      cases result with
      | error failure =>
          rw [compile, Action.runIn_bind_of_error ran]
          rfl
      | ok sections =>
          -- The clock is read after the listing, which does not move it.
          rw [compile, Action.runIn_bind_of_ok ran,
            Action.runIn_bind_of_ok (Action.runIn_get later), now_eq]
          change _ = (Query.ofFilter filter sections session.now).mapError Failure.query
          cases Query.ofFilter filter sections session.now with
          | error error => rfl
          | ok query =>
              have given : (Action.ofExcept .query (.ok query)).runIn later = (.ok query, later) :=
                rfl
              obtain ⟨last, noted⟩ :
                  ∃ last, ((query.notes filter).forM Action.detail).runIn later = (.ok (), last) :=
                Action.exists_runIn_forM (fun _ _ => ⟨_, rfl⟩) later
              rw [Action.runIn_bind_of_ok given, Action.runIn_bind_of_ok noted]
              rfl

theorem exists_listings_of_compile (library : Library) (filter : Filter) (session : Session) :
    ∃ listings, listings ≤ Client.maxAttempts ∧ (1 ≤ listings ↔ filter.Unplaced) ∧
      ((library.compile filter).runIn session).2.requests =
        session.requests ++ List.replicate listings library.client.directoryRequest := by
  by_cases unplaced : filter.Unplaced
  · have asks : (library.candidates filter).Asks library.client.directoryRequest 1
        Client.maxAttempts := by
      rw [candidates, if_pos (Filter.unplaced_iff.mp unplaced)]
      exact library.client.asks_sectionEntries.bind_silent fun _ => Action.silent_pure _
    obtain ⟨listings, enough, bounded, sent⟩ := asks_compile_of_candidates asks session
    exact ⟨listings, bounded, iff_of_true enough unplaced, sent⟩
  · have asks : (library.candidates filter).Asks library.client.directoryRequest 0 0 := by
      rw [candidates, if_neg (mt Filter.unplaced_iff.mpr unplaced)]
      exact (Action.silent_pure []).asks _ 0
    obtain ⟨listings, -, unlisted, sent⟩ := asks_compile_of_candidates asks session
    obtain rfl := Nat.le_zero.mp unlisted
    exact ⟨0, Nat.zero_le _, iff_of_false (Nat.not_lt_zero 0) unplaced, sent⟩

/-!
## Searches
-/

/-- What can be searched by: a text, with a page size if one is asked for, or a structured filter. -/
inductive Search where
  | text (words : String) (limit : Option Int)
  | structured (value : Value)

namespace Search

def action (library : Library) : Search → Action Outcome
  | text words limit => library.searchText words limit
  | structured value => library.searchStructured value

/-- The filter that a text or a structured filter is read as. -/
def filter : Search → Except Failure Filter
  | text words _ => (Filter.ofText words).mapError .numeral
  | structured value => (Filter.ofValue "filter" value).mapError .structured

def resolved (library : Library) : Search → Filter → Filter
  | text _ limit, filter => Filter.resolve (some filter) none (library.limitOr limit)
  | structured _, filter => Filter.resolve none (some filter) (some library.limit)

/-- The query that a search comes to in a session. -/
def query (library : Library) (session : Session) (search : Search) : Except Failure Query := do
  let filter ← search.filter
  library.compiled session (search.resolved library filter)

/-- What stops a search before it asks for items: its filter cannot be read, the sections cannot be
listed, none of them is fit for the filter, or the filter cannot be compiled. Whatever is listed can
be read as sections. -/
inductive Stopped (library : Library) (session : Session) (search : Search) : Prop
  | unread {failure : Failure} (read : search.filter = .error failure)
  | unlisted {filter : Filter} {failure : Failure} (read : search.filter = .ok filter)
      (unplaced : filter.Unplaced) (listed : (library.sections.runIn session).1 = .error failure)
  | homeless {filter : Filter} {sections : List Section} (read : search.filter = .ok filter)
      (offered : library.offered session filter = .ok sections)
      (homeless : Query.Homeless (search.resolved library filter) sections)
  | uncompiled {filter : Filter} {sections : List Section} {error : Binary64.IntegerError}
      (read : search.filter = .ok filter)
      (offered : library.offered session filter = .ok sections)
      (compiled : Query.ofFilter (search.resolved library filter) sections session.now =
        .error (.recency error))

theorem unplaced_resolved {library : Library} {search : Search} {filter : Filter} :
    (search.resolved library filter).Unplaced ↔ filter.Unplaced := by
  have same : (search.resolved library filter).sectionId = filter.sectionId := by
    cases search with
    | text words limit => rfl
    | structured value => exact Option.or_none
  rw [Filter.Unplaced, Filter.Unplaced, same]

theorem offered_resolved (library : Library) (session : Session) (search : Search)
    (filter : Filter) :
    library.offered session (search.resolved library filter) = library.offered session filter := by
  unfold offered
  simp only [unplaced_resolved]

theorem stopped_iff {library : Library} {session : Session} {search : Search} :
    search.Stopped library session ↔ ∃ failure, search.query library session = .error failure := by
  simp only [query, compiled, offered_resolved, Result.bind_eq_error_iff,
    Result.mapError_eq_error_iff]
  constructor
  · intro stopped
    cases stopped with
    | unread read => exact ⟨_, .inl read⟩
    | unlisted read unplaced listed =>
        exact ⟨_, .inr ⟨_, read, .inl (by rw [offered, if_pos unplaced, listed])⟩⟩
    | homeless read offered homeless =>
        exact ⟨_, .inr ⟨_, read, .inr ⟨_, offered, _,
          Query.ofFilter_eq_noSection_iff.mpr homeless, rfl⟩⟩⟩
    | uncompiled read offered failed =>
        exact ⟨_, .inr ⟨_, read, .inr ⟨_, offered, _, failed, rfl⟩⟩⟩
  · rintro ⟨failure, read | ⟨filter, read, listed | ⟨sections, offered, error, failed, -⟩⟩⟩
    · exact .unread read
    · by_cases unplaced : filter.Unplaced
      · rw [offered, if_pos unplaced] at listed
        exact .unlisted read unplaced listed
      · rw [offered, if_neg unplaced] at listed
        cases listed
    · cases error with
      | noSection => exact .homeless read offered (Query.ofFilter_eq_noSection_iff.mp failed)
      | recency error => exact .uncompiled read offered failed

/-- Once its filter is read, a search follows the compiling of what that filter is resolved to. -/
theorem follows_compile (library : Library) {search : Search} {filter : Filter}
    (read : search.filter = .ok filter) (session : Session) :
    library.Follows ((search.action library).runIn session)
      ((library.compile (search.resolved library filter)).runIn session) := by
  let resolved := search.resolved library filter
  -- All that happens in between is that notes are taken.
  cases search with
  | text words limit =>
      obtain ⟨signals, found, rfl⟩ := Filter.ofText_eq_ok_iff.mp (Result.mapError_eq_ok_iff.mp read)
      obtain ⟨noted, alike, extracted⟩ : ∃ noted, Session.AlikeButNotes session noted ∧
          (extract words).runIn session = (.ok signals.toFilter, noted) := by
        rw [extract, found]
        exact ⟨_, ⟨_, rfl⟩, rfl⟩
      have announced := Session.AlikeButNotes.after_note Note.infoLevel
        ("Smart search " ++ Text.quoted words ++ " -> " ++ resolved.toValue.quoted) noted
      have follows := ((library.search_follows_compile resolved _).of_alikeButNotes
        announced).of_alikeButNotes alike
      have searched : (library.searchText words limit).runIn session = _ :=
        Action.runIn_bind_of_ok extracted
      rw [action, searched]
      exact follows.report fun records => Action.silent_pure _
  | structured value =>
      have parsed := Result.mapError_eq_ok_iff.mp read
      have announced := Session.AlikeButNotes.after_note Note.infoLevel
        ("Advanced search -> " ++ resolved.toValue.quoted) session
      have follows := (library.search_follows_compile resolved _).of_alikeButNotes announced
      rw [action, searchStructured, parsed]
      exact follows.report fun records => Action.silent_pure _

theorem runIn_action_of_unread {library : Library} {search : Search} {failure : Failure}
    (read : search.filter = .error failure) (session : Session) :
    (search.action library).runIn session = (.error failure, session) := by
  cases search with
  | text words limit =>
      obtain ⟨error, unread, rfl⟩ := Result.mapError_eq_error_iff.mp read
      change (library.searchText words limit).runIn session = _
      cases found : Signals.ofText words with
      | ok signals =>
          rw [Filter.ofText, found] at unread
          cases unread
      | error other =>
          rw [Filter.ofText, found] at unread
          cases unread
          rw [searchText, extract, found]
          rfl
  | structured value =>
      obtain ⟨error, rejected, rfl⟩ := Result.mapError_eq_error_iff.mp read
      change (library.searchStructured value).runIn session = _
      rw [searchStructured, rejected]
      rfl

/-!
## Blocks of requests
-/

/-- What a search sends in a session is one block of attempts at listing the sections and behind it
one block of attempts at a request for items. Either block may be empty. -/
structure Blocks (library : Library) (session : Session) (search : Search)
    (listings searches : Nat) : Prop where
  listings_le : listings ≤ 4
  listed_iff : 1 ≤ listings ↔ ∃ filter, search.filter = .ok filter ∧ filter.Unplaced
  searches_le : searches ≤ 4
  unsearched_iff : searches = 0 ↔ search.Stopped library session
  unread : ∀ failure, search.filter = .error failure → listings = 0 ∧ searches = 0
  sent : ∃ request, ((search.action library).runIn session).2.requests =
      session.requests ++ List.replicate listings library.client.directoryRequest ++
        List.replicate searches request ∧
    ∀ query, search.query library session = .ok query →
      request = library.client.itemsRequest query.sectionId
        (query.parameters ++ Client.pageParameters query.window)

theorem blocks_of_unread (library : Library) (session : Session) {search : Search}
    {failure : Failure} (read : search.filter = .error failure) :
    search.Blocks library session 0 0 where
  listings_le := Nat.zero_le 4
  listed_iff := by simp [read]
  searches_le := Nat.zero_le 4
  unsearched_iff := iff_of_true rfl (.unread read)
  unread := fun _ _ => ⟨rfl, rfl⟩
  sent := by
    refine ⟨library.client.directoryRequest, ?_, ?_⟩
    · rw [runIn_action_of_unread read, List.replicate_zero, List.append_nil, List.append_nil]
    · intro found compiled
      rw [query, read] at compiled
      cases compiled

/-- Behind what compiling sends there is a second block if compiling gives a query. -/
theorem exists_searches_of_read (library : Library) (session : Session) {search : Search}
    {filter : Filter} (read : search.filter = .ok filter) :
    ∃ searches request, searches ≤ 4 ∧
      (searches = 0 ↔ ∃ failure, search.query library session = .error failure) ∧
      ((search.action library).runIn session).2.requests =
        ((library.compile (search.resolved library filter)).runIn session).2.requests ++
          List.replicate searches request ∧
      ∀ query, search.query library session = .ok query →
        request = library.client.itemsRequest query.sectionId
          (query.parameters ++ Client.pageParameters query.window) := by
  have query_eq : search.query library session =
      library.compiled session (search.resolved library filter) := by
    rw [query, read]
    rfl
  rw [query_eq, ← runIn_compile_fst]
  have follows := follows_compile library read session
  cases ran : (library.compile (search.resolved library filter)).runIn session with
  | mk compiled rehearsed =>
      rw [ran] at follows
      cases compiled with
      | error failure =>
          obtain ⟨-, requests⟩ := follows
          refine ⟨0, library.client.directoryRequest, Nat.zero_le 4, ?_, ?_, ?_⟩
          · exact iff_of_true rfl ⟨failure, rfl⟩
          · rw [requests, List.replicate_zero, List.append_nil]
          · intro query found
            cases found
      | ok query =>
          obtain ⟨searches, enough, searches_le, requests⟩ := follows
          refine ⟨searches, _, searches_le, ?_, requests, ?_⟩
          · refine iff_of_false (Nat.ne_of_gt enough) ?_
            rintro ⟨failure, failed⟩
            cases failed
          · intro other found
            cases found
            rfl

theorem exists_blocks_of_read (library : Library) (session : Session) {search : Search}
    {filter : Filter} (read : search.filter = .ok filter) :
    ∃ listings searches, search.Blocks library session listings searches := by
  obtain ⟨listings, listings_le, listed, compiled⟩ :=
    library.exists_listings_of_compile (search.resolved library filter) session
  obtain ⟨searches, request, searches_le, unsearched, sent, asked⟩ :=
    search.exists_searches_of_read library session read
  refine ⟨listings, searches, listings_le, ?_, searches_le, unsearched.trans stopped_iff.symm, ?_,
    request, ?_, asked⟩
  · rw [listed, unplaced_resolved]
    simp [read]
  · intro failure unread
    rw [read] at unread
    cases unread
  · rw [sent, compiled]

end Search

/-- Wherever it starts, an action sends nothing to an address of items. -/
def AsksNoItems {α : Type} (library : Library) (action : Action α) : Prop :=
  ∀ session, ∃ sent, (action.runIn session).2.requests = session.requests ++ sent ∧
    ∀ request ∈ sent, ∀ sectionId,
      request.url ≠ library.client.baseUrl ++ Client.itemsPath sectionId

theorem asksNoItems_of_asks {α : Type} {library : Library} {action : Action α} {least most : Nat}
    (asks : action.Asks library.client.directoryRequest least most) :
    library.AsksNoItems action := by
  intro session
  obtain ⟨attempts, -, -, sent⟩ := asks session
  refine ⟨_, sent, fun request repeated sectionId => ?_⟩
  rw [List.eq_of_mem_replicate repeated]
  exact library.client.directoryRequest_url_ne sectionId

theorem silent_resolveText (library : Library) (text : String) (sectionId : Option String)
    (limit : Option Int) : (library.resolveText text sectionId limit).Silent :=
  (silent_extract text).bind fun _ => Action.silent_pure _

/-- A search sends its requests in two blocks, of which the second is missing exactly if the search
was stopped before it. Compiling asks for no items, and resolving a text sends nothing. -/
theorem requests_in_blocks (library : Library) :
    (∀ (session : Session) (search : Search), ∃ listings searches,
      search.Blocks library session listings searches) ∧
    (∀ filter, library.AsksNoItems (library.compile filter)) ∧
    (∀ text sectionId limit, library.AsksNoItems (library.compileText text sectionId limit)) ∧
    (∀ text sectionId limit, (library.resolveText text sectionId limit).Silent) := by
  refine ⟨fun session search => ?_, fun filter => ?_, fun text sectionId limit => ?_,
    library.silent_resolveText⟩
  · cases read : search.filter with
    | error failure => exact ⟨0, 0, search.blocks_of_unread library session read⟩
    | ok filter => exact search.exists_blocks_of_read library session read
  · exact asksNoItems_of_asks (library.asks_compile filter)
  · exact asksNoItems_of_asks ((library.silent_resolveText text sectionId limit).bind_asks
      library.asks_compile)

/-- The server is busy at first, so that the sections are asked for twice. -/
example :
    let client : Client := ⟨Client.defaultUrl, "token", Client.defaultTimeout⟩
    let session : Session := {
      server := {
        planned := [.response 503 "Service Unavailable" none]
        directory := .list [.object [("key", .text "2"), ("type", .text "show")]] }
      now := ⟨⟨2026, 10, 18⟩, 12, 0, 0, 0, some 0⟩ }
    ((searchStructured { client } (.object [("type", .text "show")])).runIn session).2.requests =
      [client.directoryRequest, client.directoryRequest, client.itemsRequest "2"
        [("type", .int 2), ("sort", .text "titleSort:desc"), ("X-Plex-Container-Start", .int 0),
          ("X-Plex-Container-Size", .int 25)]] := by
  decide +kernel

end Library

end MediaSearch

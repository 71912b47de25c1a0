import MediaSearch.Client
import MediaSearch.Proofs.Query.Slots
import MediaSearch.Proofs.Session.Runs

/-!
# The requests of a client

A client asks for one thing at a time, again after failures in passing. The page that it asks for
comes behind the parameters of the query.
-/

set_option autoImplicit false

namespace MediaSearch

namespace Client

/-!
## Pages
-/

def pageParameters (window : Window) : List NamedScalar :=
  [("X-Plex-Container-Start", .int window.start), ("X-Plex-Container-Size", .int window.size)]

/-- A query that was compiled has no parameter under the names of a page. So it is asked for as it
stands, and the page comes last. -/
theorem requestParameters_of_ofFilter {filter : Filter} {sections : List Section} {now : Moment}
    {query : Query} (compiled : Query.ofFilter filter sections now = .ok query) :
    requestParameters query = query.parameters ++ pageParameters query.window := by
  obtain ⟨sectionId, since, -, -, rfl⟩ := Query.ofFilter_eq_ok_iff.mp compiled
  have known := (Query.map_fst_parametersOf_sublist filter now.date.year since).subset
  have startFresh : "X-Plex-Container-Start" ∉
      (Query.parametersOf filter now.date.year since).map (·.1) :=
    fun present => absurd (known present) (by decide)
  have sizeFresh : "X-Plex-Container-Size" ∉
      (Query.parametersOf filter now.date.year since).map (·.1) :=
    fun present => absurd (known present) (by decide)
  rw [requestParameters,
    Keyed.ofList_of_nodup (Query.nodup_map_fst_parametersOf filter now.date.year since),
    Keyed.put_of_fresh _ startFresh, Keyed.put_of_fresh]
  · exact List.append_assoc _ _ _
  · rw [List.map_append, List.mem_append, not_or]
    refine ⟨sizeFresh, ?_⟩
    simp

/-!
## Attempts
-/

theorem silent_waitAfter (attempt : Nat) (cause : String) : (waitAfter attempt cause).Silent :=
  Action.silent_get.bind fun _ => (Action.silent_note _ _).bind fun _ => Action.silent_pause _

/-- One attempt at least, if any is left, and at most all that are left. -/
theorem asks_send (client : Client) (request : Request) (left : Nat) (cause : Option String) :
    (client.send request left cause).Asks request (min left 1) left := by
  induction left generalizing cause with
  | zero =>
      cases cause with
      | none => exact (Action.silent_throw _).asks request 0
      | some cause => exact (Action.silent_throw _).asks request 0
  | succ left ih =>
      have asks : (client.send request (left + 1) cause).Asks request 1 (1 + left) := by
        refine (Action.asks_exchange request).bind fun reply => ?_
        cases client.verdict (0 < left) reply with
        | answered body => exact (Action.silent_pure body).asks request left
        | failed failure => exact (Action.silent_throw failure).asks request left
        | passing cause =>
            by_cases more : 0 < left
            · simp only [if_pos more]
              exact (silent_waitAfter _ cause).bind_asks fun _ => (ih (some cause)).weaken
            · simp only [if_neg more]
              exact (Action.silent_pure ()).bind_asks fun _ => (ih (some cause)).weaken
      rw [Nat.add_comm 1 left] at asks
      rwa [Nat.min_eq_right (Nat.le_add_left 1 left)]

theorem asks_get (client : Client) (path : String) (parameters : Option (List NamedScalar)) :
    (client.get path parameters).Asks
      ⟨client.baseUrl ++ path, parameters, client.timeout, client.headers⟩ 1 maxAttempts :=
  (asks_send client _ maxAttempts none).bind_silent fun _ => Action.silent_ofExcept _ _

def directoryRequest (client : Client) : Request :=
  ⟨client.baseUrl ++ Server.directoryPath, none, client.timeout, client.headers⟩

theorem asks_sectionEntries (client : Client) :
    client.sectionEntries.Asks client.directoryRequest 1 maxAttempts :=
  (client.asks_get Server.directoryPath none).bind_silent fun _ => Action.silent_pure _

def itemsRequest (client : Client) (sectionId : String) (parameters : List NamedScalar) : Request :=
  ⟨client.baseUrl ++ itemsPath sectionId, some parameters, client.timeout, client.headers⟩

theorem asks_itemEntries (client : Client) (query : Query) :
    (client.itemEntries query).Asks
      (client.itemsRequest query.sectionId (requestParameters query)) 1 maxAttempts :=
  (client.asks_get (itemsPath query.sectionId) _).bind_silent fun _ => Action.silent_pure _

end Client

end MediaSearch

import MediaSearch.Proofs.Client.Requests
import MediaSearch.Proofs.Result

/-!
# The attempts of a client

A call repeats its request while the outcome may pass and attempts are left, with a pause before
each repetition. The outcome of the last attempt alone decides what the call comes to, and the
outcomes after it are left for the next call.
-/

set_option autoImplicit false

namespace MediaSearch

/-- An outcome may pass if the server was only busy or failing for the moment, or if an answer was
late or broken on a connection that stood. -/
def Reply.MayPass : Reply → Prop
  | .fault kind _ => (kind.isTimeout ∨ kind.isBadResponse) ∧ ¬ kind.isConnectionFault
  | .response status _ _ => status ∈ ([429, 500, 502, 503, 504] : List Int)

namespace Server

/-- What the server answers to the attempts at one request, in turn. -/
def outcome (server : Server) (request : Request) (attempt : Nat) : Reply :=
  server.replyTo request (server.planned.getD attempt (.response 200 "OK" none))

/-- The server after so many of its answers. -/
def skip (server : Server) (count : Nat) : Server :=
  { server with planned := server.planned.drop count }

theorem next_eq (server : Server) (request : Request) :
    server.next request = (server.outcome request 0, server.skip 1) := by
  obtain ⟨planned, directory, items, deliver⟩ := server
  cases planned with
  | nil => rfl
  | cons reply rest => rfl

theorem outcome_skip (server : Server) (request : Request) (count attempt : Nat) :
    (server.skip count).outcome request attempt = server.outcome request (count + attempt) := by
  unfold outcome
  rw [skip, List.getD_eq_getElem?_getD, List.getElem?_drop, ← List.getD_eq_getElem?_getD]
  rfl

theorem skip_skip (server : Server) (first second : Nat) :
    (server.skip first).skip second = server.skip (first + second) := by
  simp [skip, List.drop_drop]

end Server

/-- So many attempts fail in passing, all within the limit, before one settles the matter: its
outcome does not pass, or it is the last. -/
structure Settles (outcome : Nat → Reply) (limit failed : Nat) : Prop where
  within : failed < limit
  passing : ∀ earlier < failed, (outcome earlier).MayPass
  settled : failed + 1 < limit → ¬ (outcome failed).MayPass

namespace Settles

theorem at_once {outcome : Nat → Reply} {limit : Nat} (lasting : ¬ (outcome 0).MayPass) :
    Settles outcome (limit + 1) 0 where
  within := Nat.succ_pos limit
  passing := fun _ before => absurd before (Nat.not_lt_zero _)
  settled := fun _ => lasting

theorem at_last (outcome : Nat → Reply) : Settles outcome 1 0 where
  within := Nat.one_pos
  passing := fun _ before => absurd before (Nat.not_lt_zero _)
  settled := fun more => absurd more (Nat.lt_irrefl 1)

theorem later {outcome : Nat → Reply} {limit failed : Nat} (passes : (outcome 0).MayPass)
    (rest : Settles (fun attempt => outcome (attempt + 1)) limit failed) :
    Settles outcome (limit + 1) (failed + 1) where
  within := Nat.succ_lt_succ rest.within
  passing := by
    intro earlier before
    cases earlier with
    | zero => exact passes
    | succ earlier => exact rest.passing earlier (Nat.lt_of_succ_lt_succ before)
  settled := fun more => rest.settled (Nat.lt_of_succ_lt_succ more)

theorem unique {outcome : Nat → Reply} {limit first second : Nat}
    (left : Settles outcome limit first) (right : Settles outcome limit second) :
    first = second := by
  rcases Nat.lt_trichotomy first second with less | same | more
  · have passes := right.passing first less
    exact absurd passes (left.settled (Nat.lt_of_le_of_lt less right.within))
  · exact same
  · have passes := left.passing second more
    exact absurd passes (right.settled (Nat.lt_of_le_of_lt more left.within))

end Settles

namespace Client

/-!
## Outcomes
-/

/-- What the attempts of a call come to by the last outcome that they see: a body that is still to
be read, or a failure. -/
def settlement (client : Client) : Reply → Except Failure Body
  | .response status reason body =>
      if status < 400 then .ok body else .error (.refused status reason)
  | .fault fault message =>
      if fault.isConnectionFault then .error (.unreachable client.baseUrl)
      else if fault.isTimeout ∨ fault.isBadResponse then .error (.exhausted message)
      else .error (.fault fault message)

/-- What a call comes to by the last outcome that it sees: what it answers, if that can be read, and
else a failure. -/
def conclusion (client : Client) (reply : Reply) : Except Failure Value := do
  (← client.settlement reply).mapError .undecodable

/-- What is said about a call by the last outcome that it sees, which is nothing if it succeeds. -/
def complaint (client : Client) : Reply → String
  | .response status reason body =>
      if 400 ≤ status then "Plex API error: " ++ Integer.text status ++ " - " ++ reason
      else
        match body with
        | .ok _ => ""
        | .error error => error.message
  | .fault fault message =>
      if fault.isConnectionFault then
        "Cannot connect to Plex server at " ++ client.baseUrl ++ ". Is Plex running?"
      else if fault.isTimeout ∨ fault.isBadResponse then "Network error: " ++ message
      else message

theorem conclusion_response_of_lt {client : Client} {status : Int} (answered : status < 400)
    (reason : String) (body : Body) :
    client.conclusion (.response status reason body) = body.mapError .undecodable := by
  simp only [conclusion, settlement, if_pos answered]
  rfl

theorem conclusion_response_of_le {client : Client} {status : Int} (refused : 400 ≤ status)
    (reason : String) (body : Body) :
    client.conclusion (.response status reason body) = .error (.refused status reason) := by
  simp only [conclusion, settlement, if_neg (Int.not_lt.mpr refused)]
  rfl

theorem conclusion_fault_eq (client : Client) (fault : Fault) (message : String) :
    client.conclusion (.fault fault message) = .error
      (if fault.isConnectionFault then .unreachable client.baseUrl
        else if fault.isTimeout ∨ fault.isBadResponse then .exhausted message
        else .fault fault message) := by
  simp only [conclusion, settlement]
  split
  · rfl
  · split <;> rfl

theorem message_of_conclusion {client : Client} {reply : Reply} {failure : Failure}
    (failed : client.conclusion reply = .error failure) :
    failure.message = client.complaint reply := by
  cases reply with
  | response status reason body =>
      rcases Int.lt_or_le status 400 with answered | refused
      · rw [conclusion_response_of_lt answered] at failed
        unfold complaint
        dsimp only
        rw [if_neg (Int.not_le.mpr answered)]
        cases body with
        | ok value => cases failed
        | error error =>
            cases failed
            rfl
      · rw [conclusion_response_of_le refused] at failed
        cases failed
        exact (if_pos refused).symm
  | fault fault message =>
      rw [conclusion_fault_eq] at failed
      cases failed
      unfold complaint
      dsimp only
      split
      · rfl
      · split <;> rfl

theorem conclusion_ne_unexplained (client : Client) (reply : Reply) :
    client.conclusion reply ≠ .error .unexplained := by
  cases reply with
  | response status reason body =>
      rcases Int.lt_or_le status 400 with answered | refused
      · rw [conclusion_response_of_lt answered, Ne, Result.mapError_eq_error_iff]
        rintro ⟨error, -, same⟩
        cases same
      · simp [conclusion_response_of_le refused]
  | fault fault message =>
      rw [conclusion_fault_eq]
      split
      · simp
      · split <;> simp

/-- The verdict that settles a call. -/
def Verdict.ofSettlement : Except Failure Body → Verdict
  | .ok body => .answered body
  | .error failure => .failed failure

theorem verdict_of_not_mayPass (client : Client) (more : Bool) {reply : Reply}
    (lasting : ¬ reply.MayPass) :
    client.verdict more reply = .ofSettlement (client.settlement reply) := by
  cases reply with
  | response status reason body =>
      have unlisted : status ∉ passingStatuses := lasting
      by_cases answered : status < 400
      · simp [verdict, unlisted, settlement, answered, Verdict.ofSettlement,
          Int.not_le.mpr answered]
      · simp [verdict, unlisted, settlement, answered, Verdict.ofSettlement,
          Int.not_lt.mp answered]
  | fault fault message =>
      by_cases connection : fault.isConnectionFault
      · simp [verdict, Fault.outlook, settlement, connection, Verdict.ofSettlement]
      · have stands : ¬ (fault.isTimeout ∨ fault.isBadResponse) := fun passing =>
          lasting ⟨passing, connection⟩
        have outlook : fault.outlook = .lasting := by
          simp only [not_or, Bool.not_eq_true] at stands
          simp [Fault.outlook, connection, stands.1, stands.2]
        simp [verdict, outlook, settlement, connection, stands, Verdict.ofSettlement]

theorem exists_verdict_of_mayPass (client : Client) {reply : Reply} (passes : reply.MayPass) :
    ∃ cause, client.verdict true reply = .passing cause := by
  cases reply with
  | response status reason body =>
      have listed : status ∈ passingStatuses := passes
      exact ⟨"HTTP " ++ Integer.text status, by simp [verdict, listed]⟩
  | fault fault message =>
      obtain ⟨passing, stands⟩ := passes
      exact ⟨message, by simp [verdict, Fault.outlook, passing, stands]⟩

/-- On the last attempt an outcome that may pass is as good as any other: what it comes to is
reported. -/
theorem verdict_of_mayPass_at_last (client : Client) {reply : Reply} (passes : reply.MayPass) :
    client.verdict false reply = .ofSettlement (client.settlement reply) ∨
      ∃ cause, client.verdict false reply = .passing cause ∧
        client.settlement reply = .error (.exhausted cause) := by
  cases reply with
  | response status reason body =>
      left
      by_cases answered : status < 400
      · simp [verdict, settlement, answered, Verdict.ofSettlement, Int.not_le.mpr answered]
      · simp [verdict, settlement, answered, Verdict.ofSettlement, Int.not_lt.mp answered]
  | fault fault message =>
      obtain ⟨passing, stands⟩ := passes
      right
      exact ⟨message, by simp [verdict, Fault.outlook, passing, stands],
        by simp only [settlement, if_neg stands, if_pos passing]⟩

/-!
## Attempts
-/

/-- The requests of a call, with one pause between any two that follow each other. -/
def spaced (request : Request) (pauses : List Binary64) : List Session.Step :=
  .request request :: pauses.flatMap fun delay => [.pause delay, .request request]

theorem spaced_cons (request : Request) (delay : Binary64) (pauses : List Binary64) :
    spaced request (delay :: pauses) = [.request request, .pause delay] ++ spaced request pauses :=
  rfl

/-- A session after one more request. -/
def asked (session : Session) (request : Request) : Session :=
  { session with
    server := session.server.skip 1
    traffic := session.traffic ++ [.request request] }

theorem runIn_exchange (request : Request) (session : Session) :
    (Action.exchange request).runIn session =
      (.ok (session.server.outcome request 0), asked session request) := by
  have sent : (Action.exchange request).runIn session =
      (.ok (session.server.next request).1,
        { session with
          server := (session.server.next request).2
          traffic := session.traffic ++ [.request request] }) := rfl
  rw [sent, Server.next_eq]
  rfl

/-- Waiting makes a pause and takes a note of it. -/
theorem exists_runIn_waitAfter (attempt : Nat) (cause : String) (session : Session) :
    ∃ delay notes, (waitAfter attempt cause).runIn session =
      (.ok (), { session with traffic := session.traffic ++ [.pause delay], notes }) :=
  ⟨_, _, rfl⟩

/-- An outcome that settles a call ends it at once. -/
theorem runIn_send_of_settled {client : Client} {request : Request} {left : Nat}
    {cause : Option String} {session : Session}
    (settled : client.verdict (0 < left) (session.server.outcome request 0) =
      .ofSettlement (client.settlement (session.server.outcome request 0))) :
    (client.send request (left + 1) cause).runIn session =
      (client.settlement (session.server.outcome request 0), asked session request) := by
  rw [send, Action.runIn_bind_of_ok (runIn_exchange request session), settled]
  cases client.settlement (session.server.outcome request 0) with
  | ok body => rfl
  | error failure => rfl

theorem runIn_send_of_passing {client : Client} {request : Request} {left : Nat}
    {cause : Option String} {session : Session} {first : String}
    (passing : client.verdict (0 < left) (session.server.outcome request 0) =
      .passing first) :
    (client.send request (left + 1) cause).runIn session =
      Action.runIn (do
        if 0 < left then waitAfter (maxAttempts - left) first
        client.send request left (some first)) (asked session request) := by
  rw [send, Action.runIn_bind_of_ok (runIn_exchange request session), passing]

/-- With an attempt left, a call makes attempts as long as their outcomes may pass. Each but the
first follows a pause. The outcome of the last decides, and the server goes on behind it. -/
theorem exists_runIn_send (client : Client) (request : Request) (left : Nat)
    (cause : Option String) (session : Session) :
    ∃ failed pauses notes, Settles (session.server.outcome request) (left + 1) failed ∧
      pauses.length = failed ∧
      (client.send request (left + 1) cause).runIn session =
        (client.settlement (session.server.outcome request failed),
          { session with
            server := session.server.skip (failed + 1)
            traffic := session.traffic ++ spaced request pauses
            notes }) := by
  induction left generalizing cause session with
  | zero =>
      refine ⟨0, [], session.notes, .at_last _, rfl, ?_⟩
      by_cases passes : (session.server.outcome request 0).MayPass
      · rcases client.verdict_of_mayPass_at_last passes with settled | ⟨last, passing, concluded⟩
        · exact runIn_send_of_settled settled
        · rw [runIn_send_of_passing passing, concluded]
          rfl
      · exact runIn_send_of_settled (client.verdict_of_not_mayPass _ passes)
  | succ left ih =>
      by_cases passes : (session.server.outcome request 0).MayPass
      · obtain ⟨first, passing⟩ := client.exists_verdict_of_mayPass passes
        obtain ⟨delay, noted, waited⟩ :=
          exists_runIn_waitAfter (maxAttempts - (left + 1)) first (asked session request)
        -- The rest of the call starts behind the first outcome, after the pause.
        obtain ⟨failed, pauses, notes, settles, counted, ran⟩ := ih (some first)
          { asked session request with
            traffic := (asked session request).traffic ++ [.pause delay]
            notes := noted }
        have outcomesLeft : (session.server.skip 1).outcome request =
            fun attempt => session.server.outcome request (attempt + 1) := by
          funext attempt
          rw [Server.outcome_skip, Nat.add_comm]
        refine ⟨failed + 1, delay :: pauses, notes, .later passes (outcomesLeft ▸ settles), ?_, ?_⟩
        · rw [List.length_cons, counted]
        · rw [runIn_send_of_passing (by simpa using passing), if_pos (Nat.succ_pos left),
            Action.runIn_bind_of_ok waited, ran]
          simp only [asked, Server.outcome_skip, Server.skip_skip, spaced_cons, List.append_assoc,
            Nat.add_comm 1]
          rfl
      · refine ⟨0, [], session.notes, .at_once passes, rfl, ?_⟩
        exact runIn_send_of_settled (client.verdict_of_not_mayPass _ passes)

/-!
## Calls
-/

/-- What a client can be called for: the directory of sections, or the items of a query. -/
inductive Call where
  | sections
  | items (query : Query)

namespace Call

def request (client : Client) : Call → Request
  | .sections => client.directoryRequest
  | .items query => client.itemsRequest query.sectionId (requestParameters query)

def entries : Call → Value → List Entries
  | .sections => entriesOf "Directory"
  | .items _ => entriesOf "Metadata"

def action (client : Client) : Call → Action (List Entries)
  | .sections => client.sectionEntries
  | .items query => client.itemEntries query

theorem action_eq (client : Client) (call : Call) :
    call.action client = (client.send (call.request client) maxAttempts none >>=
      Action.ofExcept .undecodable) >>= fun body => pure (call.entries body) := by
  cases call <;> rfl

end Call

/-- A call is served from one session to another: after so many attempts that failed in passing, the
next outcome is its result. There were as many pauses as such attempts, each before another request,
and the outcomes behind the last attempt are still to come. -/
structure Served (client : Client) (call : Call) (failed : Nat) (before : Session)
    (result : Except Failure (List Entries)) (after : Session) : Prop where
  settles : Settles (before.server.outcome (call.request client)) 4 failed
  concluded : result = (client.conclusion
    (before.server.outcome (call.request client) failed)).map call.entries
  told : ∀ failure, result = .error failure → failure.message = client.complaint
    (before.server.outcome (call.request client) failed)
  explained : result ≠ .error .unexplained
  traffic : ∃ pauses, pauses.length = failed ∧
    after.traffic = before.traffic ++ spaced (call.request client) pauses
  server : after.server = before.server.skip (failed + 1)

theorem exists_served (client : Client) (call : Call) (session : Session) :
    ∃ failed, client.Served call failed session ((call.action client).runIn session).1
      ((call.action client).runIn session).2 := by
  obtain ⟨failed, pauses, notes, settles, counted, ran⟩ :=
    client.exists_runIn_send (call.request client) 3 none session
  refine ⟨failed, ?_⟩
  have acted : (call.action client).runIn session =
      ((client.conclusion (session.server.outcome (call.request client) failed)).map
        call.entries,
        { session with
          server := session.server.skip (failed + 1)
          traffic := session.traffic ++ spaced (call.request client) pauses
          notes }) := by
    have sent : (client.send (call.request client) maxAttempts none).runIn session = _ := ran
    rw [Call.action_eq, Action.runIn_bind, Action.runIn_bind, sent, conclusion]
    rcases client.settlement (session.server.outcome (call.request client) failed) with
      failure | error | body <;> rfl
  rw [acted]
  exact {
    settles
    concluded := rfl
    told := fun failure unsuccessful =>
      message_of_conclusion (Result.map_eq_error_iff.mp unsuccessful)
    explained := fun unexplained =>
      client.conclusion_ne_unexplained _ (Result.map_eq_error_iff.mp unexplained)
    traffic := ⟨pauses, counted, rfl⟩
    server := rfl }

end Client

end MediaSearch

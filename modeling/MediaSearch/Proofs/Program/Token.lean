import MediaSearch.Proofs.Library.Twins
import MediaSearch.Proofs.Program.Runs
import MediaSearch.Proofs.Report.Saving

/-!
# The token stays hidden

The token of a server goes into one header of every request and nowhere else. Two runs that differ
in their tokens alone cannot be told apart by anything else that they leave behind, as long as the
transport treats requests with either token alike.
-/

set_option autoImplicit false

namespace MediaSearch

open MediaSearch.Action (Agree)

/-!
## Settings
-/

def Settings.withToken (settings : Settings) (token : String) : Settings :=
  { settings with server := { settings.server with token } }

namespace Settings

end Settings

/-!
## Requests
-/

def Request.withToken (token : String) (request : Request) : Request :=
  { request with headers := request.headers.map fun header =>
      if header.1 = "X-Plex-Token" then (header.1, token) else header }

/-- What a transport is relied on for: a request gets the same with either of two tokens in its
header. -/
def Server.TreatsAlike (server : Server) (mine other : String) : Prop :=
  ∀ (request : Request) (reply : PlannedReply),
    server.deliver (request.withToken mine) reply = server.deliver (request.withToken other) reply

namespace Server

/-- What becomes of replies where the values of headers are looked at first, and a request is turned
down for one of them with a fault. -/
def checkingHeaders (refuses : String → Option (Fault × String)) (request : Request)
    (reply : PlannedReply) : PlannedReply :=
  match request.headers.findSome? fun header => refuses header.2 with
  | some (fault, message) => .fault fault message
  | none => reply

theorem next_withToken {server : Server} {mine other : String}
    (treats : server.TreatsAlike mine other) {request : Request}
    (bears : request.withToken mine = request) :
    server.next (request.withToken other) = server.next request := by
  have same (reply : PlannedReply) :
      server.replyTo (request.withToken other) reply = server.replyTo request reply := by
    rw [replyTo, replyTo, ← treats, bears]
    rfl
  unfold next
  simp only [same]

theorem TreatsAlike.next {server : Server} {mine other : String}
    (treats : server.TreatsAlike mine other) (request : Request) :
    (server.next request).2.TreatsAlike mine other := by
  unfold Server.next
  cases server.planned with
  | nil => exact treats
  | cons reply rest => exact treats

end Server

namespace Session

def Step.withToken (token : String) : Step → Step
  | .request sent => .request (sent.withToken token)
  | .pause delay => .pause delay

/-- Two sessions have all in common, but the requests of the second have another token, and the
server treats both tokens alike. -/
structure AlikeButToken (mine other : String) (first second : Session) : Prop where
  treats : first.server.TreatsAlike mine other
  rest : second = { first with traffic := first.traffic.map (Step.withToken other) }

namespace AlikeButToken

variable {mine other : String} {first second : Session}

theorem requests_eq (alike : AlikeButToken mine other first second) :
    second.requests = first.requests.map (Request.withToken other) := by
  obtain ⟨-, rfl⟩ := alike
  simp only [requests, List.filterMap_map, List.map_filterMap]
  refine congrArg (List.filterMap · first.traffic) (funext fun step => ?_)
  cases step with
  | request sent => rfl
  | pause delay => rfl

/-- An action that looks neither at the traffic nor at the server agrees with itself. -/
theorem agree_of_blind {α : Type} {action : Action α}
    (blind : ∀ session traffic, action.runIn { session with traffic } =
      ((action.runIn session).1, { (action.runIn session).2 with traffic }))
    (keeps : action.Keeps Session.server) : Agree (AlikeButToken mine other) action action := by
  rintro first _ ⟨treats, rfl⟩
  have left := blind first first.traffic
  have right := blind first (first.traffic.map (Step.withToken other))
  have kept : (action.runIn first).2.traffic = first.traffic :=
    congrArg (fun run => run.2.traffic) left
  rw [right]
  refine ⟨rfl, ?_, by rw [kept]⟩
  rw [keeps]
  exact treats

theorem agree_note (level : Int) (text : String) :
    Agree (AlikeButToken mine other) (Action.note level text) (Action.note level text) :=
  agree_of_blind (fun _ _ => rfl) fun _ => rfl

theorem agree_pause (delay : Binary64) :
    Agree (AlikeButToken mine other) (Action.pause delay) (Action.pause delay) := by
  rintro first _ ⟨treats, rfl⟩
  have sent : (first.traffic ++ [Step.pause delay]).map (Step.withToken other) =
    first.traffic.map (Step.withToken other) ++ [.pause delay] := List.map_append
  refine ⟨rfl, treats, ?_⟩
  change _ = { first with
    traffic := (first.traffic ++ [Step.pause delay]).map (Step.withToken other) }
  rw [sent]
  rfl

theorem agree_exchange {request : Request} (bears : request.withToken mine = request) :
    Agree (AlikeButToken mine other) (Action.exchange request)
      (Action.exchange (request.withToken other)) := by
  rintro first _ ⟨treats, rfl⟩
  have same := Server.next_withToken treats bears
  have sent : (first.traffic ++ [Step.request request]).map (Step.withToken other) =
    first.traffic.map (Step.withToken other) ++ [.request (request.withToken other)] :=
      List.map_append
  refine ⟨?_, treats.next request, ?_⟩
  · change (.ok (first.server.next request).1 : Except Failure Reply) =
      .ok (first.server.next (request.withToken other)).1
    rw [same]
  change ({ first with
    server := (first.server.next (request.withToken other)).2
    traffic := first.traffic.map (Step.withToken other) ++
      [.request (request.withToken other)] } : Session) = { first with
    server := (first.server.next request).2
    traffic := (first.traffic ++ [Step.request request]).map (Step.withToken other) }
  rw [sent, same]

end AlikeButToken

end Session

/-!
## Clients
-/

namespace Client

end Client

/-!
## Commands
-/

open Session (AlikeButToken)

variable {mine other : String}

namespace Command

end Command

/-!
## Runs
-/

namespace Program

def Result.withToken (token : String) (result : Result) : Result :=
  { result with requests := result.requests.map (Request.withToken token) }

/-- Values that cannot stand in a header: they hold an end of a line, or begin with a blank. -/
def refusesLineEnds (value : String) : Option (Fault × String) :=
  if value.toList.any (fun character => character = '\n' || character = '\r') ||
      value.toList.head?.any Text.isBlank then
    some (.invalidHeader, "Invalid leading whitespace, reserved character(s), or return " ++
      "character(s) in header value: " ++ Text.quoted value)
  else none

/-- A place to list sections with a token, where headers are looked at. -/
def listing (token : String) : Surroundings where
  environment := [("PLEX_TOKEN", token), ("HOME", "/home/a")]
  folder := { home := ["work"] }
  server := { deliver := Server.checkingHeaders refusesLineEnds }
  jitter := Binary64.zero false
  now := ⟨⟨2026, 10, 18⟩, 12, 0, 0, 0, some 0⟩

/-- A token that cannot stand in a header is not treated like others, and is shown. -/
example : (run (listing "se\ncret") ["sections"]).console =
    "10-18 12:00:00 [ERRO] Search failed: Invalid leading whitespace, reserved character(s), " ++
      "or return character(s) in header value: 'se\\ncret'\nAborted!\n" := by
  decide +kernel

end Program

end MediaSearch

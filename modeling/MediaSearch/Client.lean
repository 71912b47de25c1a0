import MediaSearch.Session

/-!
# The client

Asks a server for its directory of sections and for items. A request that fails in passing is tried
again after a pause that doubles each time, up to a number of attempts; what the last attempt gives
is what counts. Its body is read once the attempts are over.
-/

set_option autoImplicit false

namespace MediaSearch

/-- A client of a server. Its base address has no slashes at the end. -/
structure Client where
  baseUrl : String
  token : String
  timeout : Number
  deriving DecidableEq

namespace Client

def defaultUrl : String := "http://localhost:32400"

/-- Thirty seconds. -/
def defaultTimeout : Number := .real (Binary64.ofInt 30)

def maxAttempts : Nat := 4

/-- The first pause, in tenths of a second. -/
def firstPauseTenths : Int := 8

/-- The longest pause, in seconds. -/
def longestPause : Int := 8

/-- The answers that may be better at the next attempt. -/
def passingStatuses : List Int := [429, 500, 502, 503, 504]

/-- A client for a server. Without a token there is none. -/
def connect (url token : String) (timeout : Number) : Except Failure Client :=
  if token.isEmpty then .error .noToken
  else .ok ⟨String.ofList (Text.dropEndWhile (· == '/') url.toList), token, timeout⟩

/-- The headers of every request. Only the last depends on the client. -/
def headers (client : Client) : List (String × String) :=
  [("Accept", "application/json"), ("X-Plex-Client-Identifier", "plex-search"),
    ("X-Plex-Product", "Plex Search"), ("X-Plex-Version", "0.1.0"),
    ("X-Plex-Platform", "Python"), ("X-Plex-Token", client.token)]

/-- What a reply comes to: a body, a failure, or the cause of a failure that may pass. -/
inductive Verdict where
  | answered (body : Body)
  | failed (failure : Failure)
  | passing (cause : String)

/-- The verdict on a reply, told whether another attempt is left. A status may pass only if one
is. -/
def verdict (client : Client) (more : Bool) : Reply → Verdict
  | .fault fault message =>
      match fault.outlook with
      | .unreachable => .failed (.unreachable client.baseUrl)
      | .passing => .passing message
      | .lasting => .failed (.fault fault message)
  | .response status reason body =>
      if more && passingStatuses.contains status then
        .passing ("HTTP " ++ Integer.text status)
      else if 400 ≤ status then .failed (.refused status reason)
      else .answered body

def pauseAfter (attempt : Nat) (jitter : Binary64) : Binary64 :=
  Binary64.min
    (((Binary64.ofRat false (mkRat firstPauseTenths 10)).mul
      (Binary64.ofInt (Nat.pow 2 (attempt - 1) : Nat))).add jitter)
    (Binary64.ofInt longestPause)

def waitAfter (attempt : Nat) (cause : String) : Action Unit := do
  let delay := pauseAfter attempt (← get).jitter
  Action.detail ("Plex retry attempt=" ++ Integer.text attempt ++ "/" ++
    Integer.text maxAttempts ++ " delay=" ++ delay.fixedText 2 ++ "s error=" ++ cause)
  Action.pause delay

/-- Sends a request until it is answered or fails for good, told how many attempts are left and why
the last one failed. A pause stands before every attempt but the first. -/
def send (client : Client) (request : Request) :
    (left : Nat) → (cause : Option String) → Action Body
  | 0, some cause => throw (.exhausted cause)
  | 0, none => throw .unexplained
  | left + 1, _ => do
      match client.verdict (0 < left) (← Action.exchange request) with
      | .answered body => return body
      | .failed failure => throw failure
      | .passing cause =>
          if 0 < left then waitAfter (maxAttempts - left) cause
          client.send request left (some cause)

def get (client : Client) (path : String) (parameters : Option (List NamedScalar)) :
    Action Value := do
  let body ← client.send ⟨client.baseUrl ++ path, parameters, client.timeout, client.headers⟩
    maxAttempts none
  Action.ofExcept .undecodable body

def objects : Value → List Entries
  | .list items => items.filterMap fun item =>
      match item with
      | .object entries => some entries
      | _ => none
  | _ => []

def member (key : String) : Value → Value
  | .object entries => Entries.get entries key
  | _ => .null

/-- The objects listed under a key of the container in a body. Whatever has another shape lists
none. -/
def entriesOf (key : String) (body : Value) : List Entries :=
  objects (member key (member "MediaContainer" body))

def sectionEntries (client : Client) : Action (List Entries) := do
  return entriesOf "Directory" (← client.get Server.directoryPath none)

/-- The parameters of the request for a query: those of the query, and then the page. -/
def requestParameters (query : Query) : List NamedScalar :=
  Keyed.put
    (Keyed.put (Keyed.ofList query.parameters) "X-Plex-Container-Start" (.int query.window.start))
    "X-Plex-Container-Size" (.int query.window.size)

def itemsPath (sectionId : String) : String :=
  Server.directoryPath ++ "/" ++ sectionId ++ "/all"

def itemEntries (client : Client) (query : Query) : Action (List Entries) := do
  return entriesOf "Metadata"
    (← client.get (itemsPath query.sectionId) (some (requestParameters query)))

end Client

end MediaSearch

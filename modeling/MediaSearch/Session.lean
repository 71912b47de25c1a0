import MediaSearch.Failure
import MediaSearch.Journal

/-!
# Sessions

The state in which actions run: the server, the clock, and everything that they leave behind.
Actions change the state even where they fail.
-/

set_option autoImplicit false

namespace MediaSearch

/-- What a session does about its server: it sends a request, or it waits for some seconds. -/
inductive Session.Step where
  | request (request : Request)
  | pause (delay : Binary64)
  deriving DecidableEq

/-- What actions work with, and what they leave behind in the order in which they do: requests and
pauses, notes, payloads of results, files, and printed text. The zone is that of the clocks of the
place, and the jitter is what every pause is longer by. -/
structure Session where
  server : Server := {}
  now : Moment
  zone : Moment.Zone := fun _ => 0
  jitter : Binary64 := Binary64.zero false
  traffic : List Session.Step := []
  notes : List Note := []
  payloads : List Value := []
  folder : Folder := {}
  printed : String := ""

namespace Session

def Step.request? : Step → Option Request
  | .request sent => some sent
  | .pause _ => none

def Step.pause? : Step → Option Binary64
  | .request _ => none
  | .pause delay => some delay

def requests (session : Session) : List Request :=
  session.traffic.filterMap Step.request?

/-- The present moment on the clocks of the place. -/
def localTime (session : Session) : Moment :=
  session.now.inZone session.zone

/-- The pauses between requests, in seconds. -/
def pauses (session : Session) : List Binary64 :=
  session.traffic.filterMap Step.pause?

end Session

/-- A step of work: it changes the session and gives a result or fails. -/
abbrev Action := ExceptT Failure (StateM Session)

namespace Action

def note (level : Int) (text : String) : Action Unit :=
  modify fun session => { session with notes := session.notes ++ [⟨level, text⟩] }

def detail (text : String) : Action Unit := note Note.detailLevel text

def info (text : String) : Action Unit := note Note.infoLevel text

def ofExcept {ε α : Type} (failure : ε → Failure) : Except ε α → Action α
  | .ok value => pure value
  | .error error => throw (failure error)

def exchange (request : Request) : Action Reply :=
  modifyGet fun session =>
    let (reply, server) := session.server.next request
    (reply, { session with server, traffic := session.traffic ++ [.request request] })

def pause (delay : Binary64) : Action Unit :=
  modify fun session => { session with traffic := session.traffic ++ [.pause delay] }

def keep (payload : Value) : Action Unit :=
  modify fun session => { session with payloads := session.payloads ++ [payload] }

/-- Prints a text. -/
def print (text : String) : Action Unit :=
  modify fun session => { session with printed := session.printed ++ text }

def changeFolder (edit : Folder → Except Folder.Error Folder) : Action Unit := do
  let session ← get
  match edit session.folder with
  | .ok folder => set { session with folder }
  | .error error => throw (.folder error)

/-- Writes a file. What is in the file stays there where writing breaks off. -/
def writeFile (path : Path) (text : String) : Action Unit := do
  let session ← get
  let (written, folder) := session.folder.write path text
  set { session with folder }
  ofExcept .folder written

end Action

end MediaSearch

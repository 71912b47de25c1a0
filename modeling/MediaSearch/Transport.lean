import MediaSearch.Scalar

/-!
# Transport

Requests to a server and what comes back. The server is given as data: the answers that it gives
in order, the contents that it answers with where an answer leaves the body open or none is left,
and what becomes of an answer on the way to a request.
-/

set_option autoImplicit false

namespace MediaSearch

inductive Fault where
  | noConnection | connectTimeout | insecure | proxy
  | timeout | readTimeout | badResponse
  | brokenChunk | undecodable | tooManyRedirects | invalidAddress | missingScheme
  | retriesExhausted | unspecified
  | invalidHeader | unencodableHeader
  deriving DecidableEq, Repr

inductive Fault.Outlook where
  | unreachable
  | passing
  | lasting
  deriving DecidableEq, Repr

/-- Faults of the connection. A timeout while connecting is one of them too. -/
def Fault.isConnectionFault : Fault → Bool
  | .noConnection | .connectTimeout | .insecure | .proxy => true
  | _ => false

def Fault.isTimeout : Fault → Bool
  | .timeout | .connectTimeout | .readTimeout => true
  | _ => false

def Fault.isBadResponse : Fault → Bool
  | .badResponse => true
  | _ => false

/-- What a fault says about the next attempt. A fault of the connection says that none will succeed,
also if it is a timeout. -/
def Fault.outlook (fault : Fault) : Fault.Outlook :=
  if fault.isConnectionFault then .unreachable
  else if fault.isTimeout || fault.isBadResponse then .passing
  else .lasting

/-- Why the body of a response has no value. -/
inductive BodyError where
  /-- It is no document, with the words of the reader that found so. -/
  | malformed (message : String)
  | integerTooLong (error : Integer.TooManyDigits)
  deriving DecidableEq

def BodyError.message : BodyError → String
  | .malformed message => message
  | .integerTooLong error => error.message

/-- What reading the body of a response comes to. -/
abbrev Body := Except BodyError Value

inductive Reply where
  | fault (fault : Fault) (message : String)
  | response (status : Int) (reason : String) (body : Body)

/-- A request: its address, its parameters if it has any, how long to wait, and its headers. -/
structure Request where
  url : String
  parameters : Option (List NamedScalar)
  timeout : Number
  headers : List (String × String)
  deriving DecidableEq

inductive PlannedReply where
  | fault (fault : Fault) (message : String)
  | response (status : Int) (reason : String) (body : Option Body)

/-- A server: the answers that it is about to give, the entries of its directory and its items, and
what becomes of an answer on the way to a request. A request may be turned down before the server
sees it, for its headers say, and a server may look at all of it. -/
structure Server where
  planned : List PlannedReply := []
  directory : Value := .list []
  items : Value := .list []
  deliver : Request → PlannedReply → PlannedReply := fun _ reply => reply

namespace Server

def directoryPath : String := "/library/sections"

/-- What the server holds at an address: the directory at its own address, and items elsewhere. -/
def contents (server : Server) (url : String) : Value :=
  .object [("MediaContainer", .object
    [if url.endsWith directoryPath then ("Directory", server.directory)
      else ("Metadata", server.items)])]

/-- What a request gets where an answer is planned for it. -/
def replyTo (server : Server) (request : Request) (planned : PlannedReply) : Reply :=
  match server.deliver request planned with
  | .fault fault message => .fault fault message
  | .response status reason body =>
      .response status reason (body.getD (.ok (server.contents request.url)))

def next (server : Server) (request : Request) : Reply × Server :=
  match server.planned with
  | [] => (server.replyTo request (.response 200 "OK" none), server)
  | reply :: rest => (server.replyTo request reply, { server with planned := rest })

end Server

end MediaSearch

import DocWire.Json.Value

/-! Failures are values like the others: a server's refusal, an answer that cannot be read, and the
end of the connection all reach whoever waits for the request. -/

namespace DocWire

/-- Why a request failed. -/
inductive FailureCode where
  /-- The connection was closed before the answer came. -/
  | connectionClosed
  /-- The request could not be written. -/
  | transport
  /-- The answer has an id and nothing else. -/
  | emptyResponse
  /-- The answer has a tag that means nothing. -/
  | unknownTag
  /-- The answer cannot be read. -/
  | malformed
  /-- The server refused. -/
  | server
deriving DecidableEq, Repr

def FailureCode.name : FailureCode → String
  | .connectionClosed => "connection-closed"
  | .transport => "transport"
  | .emptyResponse => "empty-response"
  | .unknownTag => "unknown-tag"
  | .malformed => "malformed"
  | .server => "server"

structure Failure where
  code : FailureCode
  message : String
deriving DecidableEq, Repr

namespace Failure

/-- What is said to everyone who waits when a connection closes. -/
def connectionClosedMessage : String := "Connection closed"

/-- The failure of everyone who waits when a connection closes. -/
def connectionClosed : Failure :=
  ⟨.connectionClosed, connectionClosedMessage⟩

/-- What is said of a refusal for which the server gives no reason. -/
def unspecified : String := "Unspecified error in server"

/-- The refusal that a server puts into a document: the reason is its text member `msg`. -/
def ofDocument (doc : Json.Value) : Failure :=
  ⟨.server, ((doc.get? "msg").bind (·.text?)).getD unspecified⟩

def describe (f : Failure) : String :=
  f.message ++ " (" ++ f.code.name ++ ")"

end Failure

inductive Response where
  | text (s : String)
  | document (doc : Json.Value)
  | failure (f : Failure)
deriving Repr

namespace Response

/-- The response to everyone who waits when a connection closes. -/
def connectionClosed : Response :=
  .failure .connectionClosed

theorem connectionClosed_eq :
    connectionClosed = .failure ⟨.connectionClosed, "Connection closed"⟩ :=
  rfl

/-- Whether a response is no failure. A document may still hold a refusal. -/
def isSuccess : Response → Bool
  | .failure _ => false
  | _ => true

def text? : Response → Option String
  | .text s => some s
  | _ => none

def document? : Response → Option Json.Value
  | .document doc => some doc
  | _ => none

def failure? : Response → Option Failure
  | .failure f => some f
  | _ => none

end Response

end DocWire

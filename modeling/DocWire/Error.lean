import DocWire.Duration
import DocWire.Frame
import DocWire.IoError
import DocWire.Json.Text
import DocWire.Response

/-! What an operation of the client can fail with. A failed request becomes an error only where a
caller asks for the request's success. -/

namespace DocWire

/-- How a server can break the protocol. -/
inductive ProtocolFault where
  /-- The stream does not begin with a frame. -/
  | frame (fault : Frame.Fault)
  /-- A frame has no id. -/
  | noId
  /-- A frame has an id that no request waits for. -/
  | unknownId (id : String)
  /-- A response lacks an item that was asked for. -/
  | missingItem (key : String)
  /-- An item of a response is neither a text nor a number. -/
  | notAText (key : String) (item : Json.Value)
  /-- A fault of which nothing but its wording is known. -/
  | described (text : String)
deriving Repr

def ProtocolFault.message : ProtocolFault → String
  | .frame fault => fault.message
  | .noId => "Invalid response message - no message id"
  | .unknownId id => "Response for unknown message id (" ++ Text.quoted id ++ ")"
  | .missingItem key => "Expected key '" ++ key ++ "' missing from response"
  | .notAText key item => "Expected '" ++ key ++ "' to be a string, got " ++ item.compact
  | .described text => text

/-- Why a target cannot be sent. -/
inductive TargetFault where
  /-- The target cannot stand in a request. -/
  | unsendable (target : String)
  /-- A component is a dot segment, which names no place of its own. -/
  | dotSegment (components : List String) (dot : String)
deriving DecidableEq, Repr

def TargetFault.message : TargetFault → String
  | .unsendable target => target
  | .dotSegment components dot =>
    "/".intercalate components ++ " (dot segment " ++ Text.quoted dot ++ ")"

inductive Error where
  /-- There is no server to talk to. -/
  | connectionFailed (cause : IoError)
  /-- No response came within the given span. -/
  | timeout (limit : Duration)
  /-- The server broke the protocol. -/
  | protocol (fault : ProtocolFault)
  /-- The server ended the stream. -/
  | connectionLost
  /-- The request failed, and the caller asked for its success. -/
  | server (failure : Failure)
  /-- The target cannot be sent. -/
  | invalidTarget (fault : TargetFault)
  /-- The transport failed. -/
  | io (cause : IoError)
deriving Repr

namespace Error

def message : Error → String
  | .connectionFailed cause => "Connection failed: " ++ cause.message
  | .timeout limit => "Request timed out after " ++ limit.text
  | .protocol fault => "Protocol error: " ++ fault.message
  | .connectionLost => "Connection lost: server closed the stream"
  | .server failure => "Server error (" ++ failure.code.name ++ "): " ++ failure.message
  | .invalidTarget fault => "Invalid target " ++ Text.quoted fault.message
  | .io cause => "I/O error: " ++ cause.message

/-- The failure of the transport behind an error, if there is one. -/
def cause? : Error → Option IoError
  | .connectionFailed cause => some cause
  | .io cause => some cause
  | _ => none

end Error

end DocWire

namespace DocWire

/-- The kinds of failure of a byte stream or of a file. -/
inductive IoError.Kind where
  | brokenPipe
  | unexpectedEof
  | timedOut
  | connectionReset
  | connectionRefused
  | interrupted
  | wouldBlock
  | writeZero
  | invalidData
  | invalidInput
  | notFound
  | notADirectory
  | isADirectory
  | nameTooLong
  | other
deriving DecidableEq, Repr

/-- A failure of a byte stream or of a file. -/
structure IoError where
  kind : IoError.Kind
  message : String
deriving DecidableEq, Repr

namespace IoError

/-- The wording of a failure about which nothing but its kind is known. -/
def Kind.description : Kind → String
  | .brokenPipe => "broken pipe"
  | .unexpectedEof => "unexpected end of file"
  | .timedOut => "timed out"
  | .connectionReset => "connection reset"
  | .connectionRefused => "connection refused"
  | .interrupted => "operation interrupted"
  | .wouldBlock => "operation would block"
  | .writeZero => "write zero"
  | .invalidData => "invalid data"
  | .invalidInput => "invalid input parameter"
  | .notFound => "entity not found"
  | .notADirectory => "not a directory"
  | .isADirectory => "is a directory"
  | .nameTooLong => "invalid filename"
  | .other => "other error"

/-- A failure about which nothing but its kind is known. -/
def ofKind (kind : Kind) : IoError :=
  ⟨kind, kind.description⟩

/-- The answer to a call whose failure may be prescribed. -/
def prescribed : Option IoError → Except IoError Unit
  | none => .ok ()
  | some e => .error e

/-- Nothing has the given name. -/
def noSuchFile : IoError :=
  ⟨.notFound, "No such file or directory (os error 2)"⟩

/-- Something that is no directory stands where a path needs one. -/
def notADirectory : IoError :=
  ⟨.notADirectory, "Not a directory (os error 20)"⟩

/-- A directory stands where a path should name a file. -/
def isADirectory : IoError :=
  ⟨.isADirectory, "Is a directory (os error 21)"⟩

/-- A name is longer than a file system allows. -/
def nameTooLong : IoError :=
  ⟨.nameTooLong, "File name too long (os error 36)"⟩

/-- The stream ended in good order. -/
def endOfStream : IoError :=
  ⟨.unexpectedEof, "Connection closed by server"⟩

/-- The stream was closed on this side before. -/
def alreadyClosed : IoError :=
  ⟨.brokenPipe, "Transport already closed"⟩

/-- A write made no progress. -/
def writeZero : IoError :=
  ⟨.writeZero, "failed to write whole buffer"⟩

end IoError

end DocWire

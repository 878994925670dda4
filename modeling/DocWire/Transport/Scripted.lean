import DocWire.Transport

/-! A transport whose answers are fixed beforehand, call by call. Nothing that a client does changes
them, and no time passes. -/

namespace DocWire

/-- The answers to the calls to come. -/
structure Script where
  reads : List (Except IoError Bytes) := []
  /-- Which of the writes fail; those past the end succeed. -/
  writes : List (Option IoError) := []
  closing : Option IoError := none

namespace Script

/-- The failure of a read past the end of the script. -/
def exhausted : IoError :=
  ⟨.timedOut, "script exhausted"⟩

/-- Takes the next prescribed answer to a read, whatever was asked for. -/
def read (s : Script) : Except IoError Bytes × Script :=
  match s.reads with
  | [] => (.error exhausted, s)
  | r :: rest => (r, { s with reads := rest })

def write (s : Script) : Except IoError Unit × Script :=
  (IoError.prescribed (s.writes.head?.getD none), { s with writes := s.writes.tail })

def bytes (s : Script) : Bytes :=
  s.reads.flatMap fun
    | .ok data => data
    | .error _ => []

instance : Transport Script where
  write _ s := s.write
  read _ _ s := s.read
  close s := (IoError.prescribed s.closing, s)
  now s := (.simulatedStart, s)
  patience s := s.reads.length + s.bytes.length + 2

end Script

end DocWire

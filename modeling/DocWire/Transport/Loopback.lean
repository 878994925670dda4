import DocWire.Error
import DocWire.Frame.Reply
import DocWire.Frame.Request
import DocWire.Transport

/-! What a client writes goes to a server in the same value, which decodes the requests, answers
them from a list, and keeps everything for inspection. -/

namespace DocWire

/-- How a scripted server answers a request. -/
inductive Answer where
  /-- Not at all. -/
  | silence
  /-- With the bytes of a text, tag included. -/
  | tagged (text : String)
  /-- With a plain text that tells what was asked. -/
  | echo
deriving Repr

/-- The plain text that tells what was asked: method, target and payload. -/
def Request.echo (r : Request) : String :=
  "S" ++ r.method.name ++ " " ++ r.target ++ " " ++ Utf8.decodeLossy r.payload

/-- The bytes of an answer to a request, tag included. -/
def Answer.bytes? (a : Answer) (r : Request) : Option Bytes :=
  match a with
  | .silence => none
  | .tagged text => some (Utf8.encode text)
  | .echo => some (Utf8.encode r.echo)

/-- A client's stream together with the server at its other end. -/
structure Loopback where
  /-- The bytes that wait for the client. -/
  inbound : Bytes := []
  /-- Everything that the client has written. -/
  written : Bytes := []
  /-- The requests found in what the client has written. -/
  requests : List Request := []
  decoder : Frame.Decoder := .empty
  /-- The answers to the requests to come. -/
  answers : List Answer := []
  /-- The size of the pieces in which bytes are handed out, if it is limited. -/
  pieceSize : Option Nat := none
  closeCalls : Nat := 0
  /-- How often the client has looked for bytes. -/
  reads : Nat := 0
  /-- Whether the stream ends after the bytes that wait. -/
  hungUp : Bool := false
  refusing : Bool := false
  /-- How many nanoseconds the client's next looks and reads take. Those after them take none. -/
  lags : List Nat := []
  clock : Instant

namespace Loopback

def empty : Loopback :=
  { clock := .simulatedStart }

def push (l : Loopback) (data : Bytes) : Loopback :=
  { l with inbound := l.inbound ++ data }

def respond (l : Loopback) (id answer : String) : Loopback :=
  l.push (Reply.encode id (Utf8.encode answer))

def withAnswers (l : Loopback) (answers : List Answer) : Loopback :=
  { l with answers }

/-- Hands out at most `n` bytes at a time, but at least one. -/
def inPiecesOf (l : Loopback) (n : Nat) : Loopback :=
  { l with pieceSize := some (max n 1) }

/-- Ends the stream after the bytes that wait. -/
def hangUp (l : Loopback) : Loopback :=
  { l with hungUp := true }

def refuse (l : Loopback) : Loopback :=
  { l with refusing := true }

/-- Lets the client's next looks and reads take these times. -/
def lagging (l : Loopback) (lags : List Nat) : Loopback :=
  { l with lags }

/-- Takes the body of a frame from the client. A body that is no request is passed over. -/
def receive (l : Loopback) (body : Bytes) : Loopback :=
  match Request.parse? body with
  | none => l
  | some r =>
    let answer := (l.answers.head?.bind (·.bytes? r)).map (Reply.encode r.id)
    { l with
      requests := l.requests ++ [r]
      answers := l.answers.tail
      inbound := l.inbound ++ answer.getD [] }

/-- The failure of a write that is refused. -/
def refusal : IoError :=
  ⟨.brokenPipe, "fake write failure"⟩

/-- The failure of a read at the end of the stream. -/
def streamEnd : IoError :=
  ⟨.unexpectedEof, "fake server closed the stream"⟩

/-- The failure of a read that would wait for ever. -/
def nothingToRead : IoError :=
  ⟨.timedOut, "fake transport has no data and no deadline"⟩

/-- The failure of a write after which the stream makes no sense. -/
def desynchronised (fault : Frame.Fault) : IoError :=
  ⟨.invalidData, (Error.protocol (.frame fault)).message⟩

/-- Takes what the client writes and answers the requests that are complete. -/
def write (data : Bytes) (l : Loopback) : Except IoError Unit × Loopback :=
  if l.refusing then (.error refusal, l)
  else
    let drained := (l.decoder.push data).drain
    let l := { l with written := l.written ++ data, decoder := drained.decoder }
    let l := drained.bodies.foldl receive l
    match drained.fault with
    | none => (.ok (), l)
    | some fault => (.error (desynchronised fault), l)

/-- Lets the time pass that the next look or read takes. -/
def pass (l : Loopback) : Loopback :=
  { l with clock := ⟨l.clock.nanos + l.lags.head?.getD 0⟩, lags := l.lags.tail }

theorem le_pass_clock (l : Loopback) : l.clock.nanos ≤ l.pass.clock.nanos :=
  Nat.le_add_right ..

/-- How many nanoseconds a waiting client lets pass between two looks. -/
def lookInterval : Nat := 1000000

/-- Hands out waiting bytes. Without any, a client with a deadline looks for them again and again
until the deadline has come, and one without is refused. -/
def read (max : Nat) (deadline : Option Instant) (l : Loopback) : Except IoError Bytes × Loopback :=
  let l := { l.pass with reads := l.reads + 1 }
  if l.inbound ≠ [] then
    let n := match l.pieceSize with
      | none => max
      | some size => min size max
    (.ok (l.inbound.take n), { l with inbound := l.inbound.drop n })
  else if l.hungUp then (.error streamEnd, l)
  else match deadline with
    | none => (.error nothingToRead, l)
    | some d =>
      let wait := d.nanos - l.clock.nanos
      (.ok [], { l with
        reads := l.reads + (wait + lookInterval - 1) / lookInterval
        clock := ⟨l.clock.nanos + wait⟩ })

def close (l : Loopback) : Except IoError Unit × Loopback :=
  (.ok (), { l with closeCalls := l.closeCalls + 1 })

instance : Transport Loopback where
  write := write
  read := read
  close := close
  now l := (l.pass.clock, l.pass)
  patience l := l.inbound.length + 2

end Loopback

end DocWire

import DocWire.Transport

/-! Whatever the reading end yields is taken off it at once and kept in a queue, so that a reader
with a deadline never has to block. The writing end is given up when the stream is closed. -/

namespace DocWire

/-- What a call to the reading end yields. -/
inductive Arrival where
  /-- Bytes; none of them is the end of the stream. -/
  | bytes (data : Bytes)
  | endOfStream
  | failure (e : IoError)
deriving DecidableEq, Repr

/-- What has been taken off the reading end and not been handed out. -/
structure Inbox where
  queue : List (Except IoError Bytes) := []
  /-- Nothing more is taken off the reading end: it has ended or failed. -/
  finished : Bool := false
  /-- The rest of a piece of which a part has been handed out. -/
  leftover : Bytes := []
  /-- The end, or a failure, has been handed out. -/
  ended : Bool := false
  /-- How many pieces have been taken off, the empty one that is the end included. -/
  pieces : Nat := 0

namespace Inbox

/-- How many bytes are taken off the reading end at a time. -/
def pieceSize : Nat := 8192

/-- Takes a piece of at most `pieceSize` bytes. -/
def takePiece (b : Inbox) (data : Bytes) : Inbox :=
  if b.finished then b
  else if data.isEmpty then { b with finished := true, pieces := b.pieces + 1 }
  else { b with queue := b.queue ++ [.ok data], pieces := b.pieces + 1 }

/-- Takes what a call to the reading end yields. An interrupted call is made again; after the end or
a failure nothing is taken. -/
def take (b : Inbox) (a : Arrival) : Inbox :=
  match a with
  | .bytes data =>
    if data.isEmpty then b.takePiece [] else (data.pieces pieceSize).foldl takePiece b
  | .endOfStream => { b with finished := true }
  | .failure e =>
    if b.finished ∨ e.kind = .interrupted then b
    else { b with queue := b.queue ++ [.error e], finished := true }

/-- Hands out at most `max` bytes of the leftover. -/
def handOut (b : Inbox) (max : Nat) : Except IoError Bytes × Inbox :=
  (.ok (b.leftover.take max), { b with leftover := b.leftover.drop max })

/-- Answers a read, if it can be answered now. A failure is handed out once; after it, as after the
end, there is nothing but the end. -/
def read? (b : Inbox) (max : Nat) : Option (Except IoError Bytes × Inbox) :=
  if !b.leftover.isEmpty then some (b.handOut max)
  else if b.ended then some (.error .endOfStream, b)
  else match b.queue with
    | .ok data :: queue => some (({ b with queue, leftover := data } : Inbox).handOut max)
    | .error e :: queue => some (.error e, { b with queue, ended := true })
    | [] => if b.finished then some (.error .endOfStream, { b with ended := true }) else none

/-- The bytes that have been taken off and not been handed out, in their order. -/
def bytes (b : Inbox) : Bytes :=
  b.leftover ++ b.queue.flatMap fun
    | .ok data => data
    | .error _ => []

end Inbox

/-- The blocking ends of a stream, with whatever is behind them. -/
class Ends (ω : Type) where
  /-- One call that writes some of the data and tells how much. -/
  write : Bytes → ω → Except IoError Nat × ω
  flush : ω → Except IoError Unit × ω
  /-- Gives the writing end up. -/
  release : ω → ω
  /-- Unblocks the reading end, for ends that can. -/
  unblock : ω → Except IoError Unit × ω
  /-- What the reading end yields without blocking. -/
  arrivals : ω → List Arrival × ω
  /-- How many interrupted calls a write is given. -/
  patience : ω → Nat

structure Stream (ω : Type) where
  ends : ω
  inbox : Inbox := {}
  /-- Whether the writing end has not been given up. -/
  writable : Bool := true
  /-- Whether closing has to unblock the reading end. -/
  unblocks : Bool
  clock : Instant := .simulatedStart

namespace Stream

variable {ω : Type} [Ends ω]

/-- Takes everything that the reading end yields without blocking. -/
def settle (s : Stream ω) : Stream ω :=
  let (arrivals, ends) := Ends.arrivals s.ends
  { s with ends, inbox := arrivals.foldl Inbox.take s.inbox }

/-- Writes all of the data in as many calls as that takes. An interrupted call is made again, and
one that writes nothing is a failure. -/
def writeAll : (rounds : Nat) → Bytes → ω → Except IoError Unit × ω
  | _, [], ends => (.ok (), ends)
  | 0, _ :: _, ends => (.error (.ofKind .interrupted), ends)
  | rounds + 1, b :: data, ends =>
    let (answer, ends) := Ends.write (b :: data) ends
    match answer with
    | .ok 0 => (.error .writeZero, ends)
    | .ok n => writeAll rounds ((b :: data).drop n) ends
    | .error e =>
      if e.kind = .interrupted then writeAll rounds (b :: data) ends else (.error e, ends)

/-- Writes all of the data and flushes it. -/
def write (data : Bytes) (s : Stream ω) : Except IoError Unit × Stream ω :=
  if !s.writable then (.error .alreadyClosed, s)
  else
    let (answer, ends) := writeAll (Ends.patience s.ends + data.length) data s.ends
    match answer with
    | .error e => (.error e, { s with ends })
    | .ok () =>
      let (answer, ends) := Ends.flush ends
      (answer, { s with ends })

/-- Hands out what has arrived. If nothing has, the deadline passes; without one, time stands
still. -/
def read (max : Nat) (deadline : Option Instant) (s : Stream ω) :
    Except IoError Bytes × Stream ω :=
  let s := s.settle
  match s.inbox.read? max with
  | some (answer, inbox) => (answer, { s with inbox })
  | none =>
    let later := match deadline with
      | none => s.clock.nanos
      | some d => Nat.max s.clock.nanos d.nanos
    (.ok [], { s with clock := ⟨later⟩ })

/-- Flushes the writing end and gives it up, unless that is done. It is given up even if flushing
fails. -/
def closeWriter (s : Stream ω) : Except IoError Unit × Stream ω :=
  if !s.writable then (.ok (), s)
  else
    let (answer, ends) := Ends.flush s.ends
    (answer, { s with ends := Ends.release ends, writable := false })

/-- Gives the writing end up and then unblocks the reading end, unless that is done. Only flushing
can fail; a failure to unblock means that the other side is gone already. -/
def close (s : Stream ω) : Except IoError Unit × Stream ω :=
  let (answer, s) := s.closeWriter
  if s.unblocks then (answer, { s with ends := (Ends.unblock s.ends).2, unblocks := false }.settle)
  else (answer, s)

instance : Transport (Stream ω) where
  write := write
  read := read
  close := close
  now s := (s.clock, s)
  patience s := s.settle.inbox.bytes.length + 2

end Stream

end DocWire

import DocWire.Transport.Stream

/-! Ends of a stream whose behaviour is fixed beforehand: what arrives is fed in by hand, and every
call to the writing end takes the next prescribed answer. -/

namespace DocWire

/-- How a call to the writing end goes. -/
inductive Acceptance where
  /-- All of the data is accepted. -/
  | whole
  /-- At most `n` bytes are accepted. -/
  | upTo (n : Nat)
  | failure (e : IoError)
deriving DecidableEq, Repr

/-- A call that was made to the ends. -/
inductive EndCall where
  | wrote (accepted : Bytes)
  | flushed
  | unblocked
deriving DecidableEq, Repr

/-- Ends with prescribed behaviour. -/
structure Rehearsal where
  /-- What the reading end yields next. -/
  feed : List Arrival := []
  /-- How the next calls to the writing end go; those past the end accept all. -/
  writes : List Acceptance := []
  /-- Which of the next flushes fail; those past the end succeed. -/
  flushes : List (Option IoError) := []
  /-- The failure of unblocking, if it fails. -/
  unblocking : Option IoError := none
  log : List EndCall := []

namespace Rehearsal

/-- Accepts data as prescribed. A failed call is not logged. -/
def write (data : Bytes) (r : Rehearsal) : Except IoError Nat × Rehearsal :=
  let next := { r with writes := r.writes.tail }
  match r.writes.head?.getD .whole with
  | .whole => (.ok data.length, { next with log := r.log ++ [.wrote data] })
  | .upTo n => (.ok (min n data.length), { next with log := r.log ++ [.wrote (data.take n)] })
  | .failure e => (.error e, next)

def flush (r : Rehearsal) : Except IoError Unit × Rehearsal :=
  (IoError.prescribed (r.flushes.head?.getD none),
    { r with flushes := r.flushes.tail, log := r.log ++ [.flushed] })

/-- Ends the reading end after everything that was fed. -/
def unblock (r : Rehearsal) : Except IoError Unit × Rehearsal :=
  (IoError.prescribed r.unblocking,
    { r with feed := r.feed ++ [.endOfStream], log := r.log ++ [.unblocked] })

instance : Ends Rehearsal where
  write := write
  flush := flush
  release r := r
  unblock := unblock
  arrivals r := (r.feed, { r with feed := [] })
  patience r := r.writes.length

end Rehearsal

end DocWire

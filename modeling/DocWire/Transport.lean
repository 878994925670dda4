import DocWire.Bytes
import DocWire.Duration
import DocWire.IoError

/-! A transport is a state with operations that may answer in any way and change the state in any
way; nothing is assumed of them here. Time may pass in every operation, reading the clock included.
-/

namespace DocWire

/-- The operations of a byte stream in two directions. -/
class Transport (σ : Type) where
  /-- Writes all of the data. A failure is final for the connection. -/
  write : Bytes → σ → Except IoError Unit × σ
  /-- Reads at most `max` bytes. It waits for a byte until the deadline and returns none only then;
  the end of the stream is the failure `IoError.Kind.unexpectedEof`. -/
  read : (max : Nat) → (deadline : Option Instant) → σ → Except IoError Bytes × σ
  close : σ → Except IoError Unit × σ
  now : σ → Instant × σ
  /-- How many rounds of reading and dispatching a wait is given. A wait that is not over then is
  reported as stalled, and is never taken for a timeout. -/
  patience : σ → Nat

end DocWire

import DocWire.Transport

/-! What a real server has sent so far, as a transport. A run on it goes as far as the bytes reach
and stalls there; with more bytes, or more time, the run is made again. -/

namespace DocWire

structure Exchange where
  /-- What the server has sent and the client has not read. -/
  received : Bytes := []
  ended : Bool := false
  /-- How many nanoseconds have passed since the exchange began. -/
  elapsed : Nat := 0
  clock : Instant := .simulatedStart

namespace Exchange

/-- Hands out what the server has sent. When nothing is left, the client has waited until now. -/
def read (max : Nat) (e : Exchange) : Except IoError Bytes × Exchange :=
  if e.received ≠ [] then
    (.ok (e.received.take max), { e with received := e.received.drop max })
  else if e.ended then (.error .endOfStream, e)
  else (.ok [], { e with clock := ⟨Instant.simulatedStart.nanos + e.elapsed⟩ })

instance : Transport Exchange where
  write _ e := (.ok (), e)
  read max _ e := e.read max
  close e := (.ok (), e)
  now e := (e.clock, e)
  patience e := e.received.length + 2

end Exchange

end DocWire

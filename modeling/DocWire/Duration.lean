import DocWire.Decimal

/-! A wait is bounded by a span, which becomes a deadline on the clock once, at its start. A span
that carries the clock beyond its range bounds nothing. -/

namespace DocWire

structure Duration where
  nanos : Nat
deriving DecidableEq, Repr

namespace Duration

def perSecond : Nat := 1000000000

/-- The span of `secs` seconds and `nanos` nanoseconds. -/
def of (secs nanos : Nat) : Duration :=
  ⟨secs * perSecond + nanos⟩

def ofSecs (n : Nat) : Duration :=
  of n 0

def ofMillis (n : Nat) : Duration :=
  ⟨n * 1000000⟩

/-- The whole seconds of a span. -/
def secs (d : Duration) : Nat :=
  d.nanos / perSecond

/-- The nanoseconds beyond the whole seconds of a span. -/
def subsecNanos (d : Duration) : Nat :=
  d.nanos % perSecond

/-- The digits after the point of the fraction `part / 10 ^ places`, without zeros at the end. -/
def fraction : (places part : Nat) → List Char
  | 0, _ => []
  | places + 1, part =>
    if part = 0 then []
    else
      Decimal.digitChar (part / Decimal.powerOfTen places) ::
        fraction places (part % Decimal.powerOfTen places)

/-- The number of whole units in a span, with a fraction where one is needed. -/
def inUnits (places : Nat) (n : Nat) : String :=
  let whole := Decimal.text (n / Decimal.powerOfTen places)
  match fraction places (n % Decimal.powerOfTen places) with
  | [] => whole
  | digits => whole ++ "." ++ String.ofList digits

/-- The text of a span: in the largest unit of which it holds at least one, down to nanoseconds. -/
def text (d : Duration) : String :=
  if perSecond ≤ d.nanos then inUnits 9 d.nanos ++ "s"
  else if 1000000 ≤ d.nanos then inUnits 6 d.nanos ++ "ms"
  else if 1000 ≤ d.nanos then inUnits 3 d.nanos ++ "µs"
  else inUnits 0 d.nanos ++ "ns"

end Duration

/-- A reading of a clock, in nanoseconds since its start. -/
structure Instant where
  nanos : Nat
deriving DecidableEq, Repr

namespace Instant

/-- The reading at which simulated clocks begin: one day. -/
def simulatedStart : Instant :=
  ⟨86400 * Duration.perSecond⟩

/-- The clock counts the seconds that 63 bits hold. -/
def clockRange : Nat := 0x8000000000000000 * Duration.perSecond

/-- The instant `d` after `now`, unless the clock ends before it. -/
def after? (now : Instant) (d : Duration) : Option Instant :=
  if now.nanos + d.nanos < clockRange then some ⟨now.nanos + d.nanos⟩ else none

/-- Whether a deadline has come at `now`. Without a deadline it never does. -/
def passed (deadline : Option Instant) (now : Instant) : Bool :=
  match deadline with
  | none => false
  | some d => d.nanos ≤ now.nanos

/-- A deadline that has come does not go away. -/
theorem passed_of_le {deadline : Option Instant} {now later : Instant}
    (hLater : now.nanos ≤ later.nanos) (h : passed deadline now = true) :
    passed deadline later = true := by
  cases deadline with
  | none => exact h
  | some d => exact decide_eq_true (Nat.le_trans (of_decide_eq_true h) hLater)

/-- The deadline of a wait that starts at `now`. Neither a missing bound nor one beyond the end of
the clock gives one. -/
def deadline (now : Instant) (timeout : Option Duration) : Option Instant :=
  timeout.bind now.after?

end Instant

end DocWire

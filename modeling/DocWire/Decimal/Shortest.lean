import DocWire.Binary64
import DocWire.Decimal

/-! The shortest decimal number that reads back as a given binary one is a multiple of the largest
power of ten with a multiple between the halfway points to the number's neighbours; where two
multiples lie there, the nearer one is taken. -/

namespace DocWire.Decimal

/-- The number `digits · 10 ^ exponent`. -/
structure Scientific where
  digits : Nat
  exponent : Int
deriving DecidableEq, Repr

/-- The numbers that round to a given one, in units of which the given one is `value`: those between
`low` and `high`, the ends included where `closed`. -/
structure RoundingInterval where
  low : Nat
  value : Nat
  high : Nat
  closed : Bool
deriving DecidableEq, Repr

/-- The rounding interval of a positive number in quarters of its last binary place. Below a power
of two the neighbours are half as far apart. -/
def RoundingInterval.of (x : Binary64) : RoundingInterval :=
  let m := x.significand
  let low :=
    if m = Binary64.minNormal ∧ Binary64.minExponent < x.exponent then 4 * m - 1 else 4 * m - 2
  ⟨low, 4 * m, 4 * m + 2, m % 2 = 0⟩

/-- Whether `n` lies in the interval whose bounds are multiplied by `scale`. -/
def RoundingInterval.contains (i : RoundingInterval) (scale n : Nat) : Bool :=
  if i.closed then i.low * scale ≤ n && n ≤ i.high * scale
  else i.low * scale < n && n < i.high * scale

/-- The multiple of `10 ^ exponent` in the rounding interval of `x` that is nearest to `x`, if the
interval has one; of two equally near ones the even multiple. -/
def multipleIn? (x : Binary64) (exponent : Int) : Option Nat :=
  let i := RoundingInterval.of x
  let quarter := x.exponent - 2
  let scale := powerOfTen (-exponent).toNat <<< quarter.toNat
  let unit := powerOfTen exponent.toNat <<< (-quarter).toNat
  let value := i.value * scale
  let d := value / unit
  match i.contains scale (d * unit), i.contains scale ((d + 1) * unit) with
  | false, false => none
  | true, false => some d
  | false, true => some (d + 1)
  | true, true =>
    let below := value - d * unit
    let above := (d + 1) * unit - value
    if below < above then some d
    else if above < below then some (d + 1)
    else some (d + d % 2)

/-- Looks for a multiple of `10 ^ exponent` and, failing that, of up to `steps` smaller powers. -/
def firstMultiple (x : Binary64) : (steps : Nat) → (exponent : Int) → Scientific
  | 0, exponent => ⟨(multipleIn? x exponent).getD 0, exponent⟩
  | steps + 1, exponent =>
    match multipleIn? x exponent with
    | some d => ⟨d, exponent⟩
    | none => firstMultiple x steps (exponent - 1)

/-- The shortest decimal number that reads back as the positive number `x`. The search begins at the
power of ten above `x`; seventeen digits always suffice. -/
def shortest (x : Binary64) : Scientific :=
  let binary : Int := x.significand.log2 + x.exponent
  firstMultiple x 20 (binary * 30103 / 100000 + 1)

end DocWire.Decimal

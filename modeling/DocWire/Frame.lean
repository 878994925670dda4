import DocWire.Bytes
import DocWire.Decimal
import DocWire.Text.Quoted
import DocWire.Text.Utf8

/-! A message on the wire is a decimal byte count, a space, and a body of exactly that many bytes.
Spaces in front of the count mean nothing. -/

namespace DocWire.Frame

def encode (body : Bytes) : Bytes :=
  Utf8.encode (Decimal.text body.length) ++ Bytes.space :: body

/-- The largest body that a decoder accepts, in bytes. A larger announcement is refused before any
memory is set aside for it. -/
def maxSize : Nat := 100 * 1024 * 1024

/-- The longest count that can be valid, in digits: that of the largest 64-bit number. -/
def maxHeader : Nat := 20

/-- Why the bytes at the front of a stream begin no frame. -/
inductive Fault where
  /-- More bytes than any count has, and no space among them. -/
  | unterminated
  /-- The bytes before the first space are no 64-bit decimal number. -/
  | notANumber (header : Bytes)
  /-- The announced body is larger than `maxSize`. -/
  | tooLarge (length : Nat)
deriving DecidableEq, Repr

def Fault.message : Fault → String
  | .unterminated =>
    "Length prefix exceeds " ++ Decimal.text maxHeader ++ " bytes without a delimiter"
  | .notANumber header => "Invalid value read: " ++ Text.quoted (Utf8.decodeLossy header)
  | .tooLarge length =>
    "Frame size " ++ Decimal.text length ++ " exceeds maximum " ++ Decimal.text maxSize ++ " bytes"

/-- The number that a count spells: digits only, at least one, at most 64 bits. -/
def length? (header : Bytes) : Option Nat :=
  if header.isEmpty then none
  else (Decimal.readDigits Decimal.maxWord 0 (header.map UInt8.toNat)).toOption

/-- Reads the count at the front of `s` and returns it with the bytes after its space. Nothing is
returned while the space can still arrive. -/
def header? (s : Bytes) : Except Fault (Option (Nat × Bytes)) :=
  match s.splitAtSpace? with
  | none => if maxHeader < s.length then .error .unterminated else .ok none
  | some (header, rest) =>
    match length? header with
    | none => .error (.notANumber header)
    | some n => if maxSize < n then .error (.tooLarge n) else .ok (some (n, rest))

/-- The bytes of a stream that are not handed out yet, and the size of the body they belong to once
its count has been read. -/
structure Decoder where
  buffer : Bytes := []
  expected : Option Nat := none
deriving DecidableEq, Repr

namespace Decoder

/-- A decoder before the first byte. -/
def empty : Decoder := {}

/-- Appends bytes that have arrived. -/
def push (d : Decoder) (data : Bytes) : Decoder :=
  { d with buffer := d.buffer ++ data }

def buffered (d : Decoder) : Nat :=
  d.buffer.length

/-- Takes a body of `n` bytes off the buffer `s` once all of it is there. -/
def takeBody (n : Nat) (s : Bytes) : Except Fault (Option Bytes) × Decoder :=
  if s.length < n then (.ok none, ⟨s, some n⟩) else (.ok (some (s.take n)), ⟨s.drop n, none⟩)

/-- Takes the next frame off the buffer `s`, which begins with its count. -/
def takeFrame (s : Bytes) : Except Fault (Option Bytes) × Decoder :=
  match header? s with
  | .error f => (.error f, ⟨s, none⟩)
  | .ok none => (.ok none, ⟨s, none⟩)
  | .ok (some (n, rest)) => takeBody n rest

/-- Takes the next complete body off the buffer. Without one, only leading spaces and one valid
count are consumed; a fault consumes leading spaces alone, so that it is met again. -/
def next (d : Decoder) : Except Fault (Option Bytes) × Decoder :=
  match d.expected with
  | some n => takeBody n d.buffer
  | none => takeFrame d.buffer.dropSpaces

/-- What a decoder still has to give: its bytes, and a body whose count has been read. -/
def weight (d : Decoder) : Nat :=
  d.buffer.length + if d.expected.isSome then 1 else 0

theorem weight_of_takeBody {n : Nat} {s body : Bytes} {d : Decoder}
    (h : takeBody n s = (.ok (some body), d)) : d.weight ≤ s.length := by
  unfold takeBody at h
  split at h
  · simp at h
  · injection h with _ hd
    subst hd
    simp [weight]

theorem length_of_header? {s rest : Bytes} {n : Nat} (h : header? s = .ok (some (n, rest))) :
    rest.length < s.length := by
  unfold header? at h
  split at h
  · split at h <;> simp at h
  next hs =>
    split at h
    · simp at h
    · split at h
      · simp at h
      · simp only [Except.ok.injEq, Option.some.injEq, Prod.mk.injEq] at h
        rw [Bytes.eq_of_splitAtSpace? hs, ← h.2, List.length_append, List.length_cons]
        omega

theorem weight_of_takeFrame {s body : Bytes} {d : Decoder}
    (h : takeFrame s = (.ok (some body), d)) : d.weight < s.length := by
  unfold takeFrame at h
  split at h
  · simp at h
  · simp at h
  next hs => exact Nat.lt_of_le_of_lt (weight_of_takeBody h) (length_of_header? hs)

/-- Handing out a body leaves less to give. -/
theorem weight_of_next {d d' : Decoder} {body : Bytes} (h : d.next = (.ok (some body), d')) :
    d'.weight < d.weight := by
  unfold next at h
  split at h
  next n hn =>
    have := weight_of_takeBody h
    simp only [weight, hn, Option.isSome_some, if_true] at this ⊢
    omega
  next hn =>
    have h1 := weight_of_takeFrame h
    have h2 := d.buffer.length_dropSpaces_le
    simp only [weight] at h1 ⊢
    omega

/-- What came out of a decoder when it was asked for bodies until it had none. -/
structure Drained where
  bodies : List Bytes
  /-- The fault that ended the asking, if one did. -/
  fault : Option Fault
  decoder : Decoder

/-- Asks for bodies until there is none. -/
def drain (d : Decoder) : Drained :=
  match _step : d.next with
  | (.ok (some body), d') =>
    let r := drain d'
    { r with bodies := body :: r.bodies }
  | (.ok none, d') => ⟨[], none, d'⟩
  | (.error f, d') => ⟨[], some f, d'⟩
termination_by d.weight
decreasing_by exact weight_of_next _step

/-- Feeds the pieces of a stream one after the other and asks for all bodies after each. A fault
ends the feeding. -/
def feed (d : Decoder) : List Bytes → Drained
  | [] => ⟨[], none, d⟩
  | piece :: pieces =>
    let first := (d.push piece).drain
    match first.fault with
    | some _ => first
    | none =>
      let rest := feed first.decoder pieces
      { rest with bodies := first.bodies ++ rest.bodies }

end Decoder

end DocWire.Frame

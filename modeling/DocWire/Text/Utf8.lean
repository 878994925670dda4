import DocWire.Decimal

/-! Decoding goes through `scan`, which looks at the front of a byte string and tells a character,
an ill-formed sequence, or a sequence that the input cuts short. -/

namespace DocWire.Utf8

/-- The one to four bytes of a character. -/
def encodeChar (c : Char) : List UInt8 :=
  let n := c.toNat
  if n < 0x80 then [n.toUInt8]
  else if n < 0x800 then [(0xC0 + n / 0x40).toUInt8, (0x80 + n % 0x40).toUInt8]
  else if n < 0x10000 then
    [(0xE0 + n / 0x1000).toUInt8, (0x80 + n / 0x40 % 0x40).toUInt8, (0x80 + n % 0x40).toUInt8]
  else
    [(0xF0 + n / 0x40000).toUInt8, (0x80 + n / 0x1000 % 0x40).toUInt8,
      (0x80 + n / 0x40 % 0x40).toUInt8, (0x80 + n % 0x40).toUInt8]

def encode (s : String) : List UInt8 :=
  s.toList.flatMap encodeChar

/-- What stands at the front of a byte string. -/
inductive Scan where
  /-- A character, which takes `extra` bytes after the first one. -/
  | char (c : Char) (extra : Nat)
  /-- The first byte and the `extra` bytes after it begin no character. -/
  | bad (extra : Nat)
  /-- The input ends inside a sequence that could still become a character. -/
  | cut
deriving DecidableEq, Repr

/-- What a lead byte promises: how many bytes follow, the range of the first of them, and the
payload bits of the lead byte. The narrowed ranges keep out overlong forms, surrogates and
everything above U+10FFFF. -/
structure Lead where
  extra : Nat
  low : Nat
  high : Nat
  bits : Nat
deriving DecidableEq, Repr

/-- The promise of a byte that is not ASCII, if it can lead a sequence at all. -/
def lead? (n : Nat) : Option Lead :=
  if n < 0xC2 then none
  else if n < 0xE0 then some ⟨1, 0x80, 0xBF, n - 0xC0⟩
  else if n < 0xF0 then
    some ⟨2, if n = 0xE0 then 0xA0 else 0x80, if n = 0xED then 0x9F else 0xBF, n - 0xE0⟩
  else if n < 0xF5 then
    some ⟨3, if n = 0xF0 then 0x90 else 0x80, if n = 0xF4 then 0x8F else 0xBF, n - 0xF0⟩
  else none

/-- Reads `missing` continuation bytes. The next one must lie between `low` and `high`, those after
it between `0x80` and `0xBF`; `seen` continuation bytes came before and gave the bits `bits`. -/
def scanTail (missing low high seen bits : Nat) (s : List UInt8) : Scan :=
  match missing, s with
  | 0, _ => .char (Char.ofNat bits) seen
  | _ + 1, [] => .cut
  | missing + 1, b :: s =>
    if low ≤ b.toNat ∧ b.toNat ≤ high then
      scanTail missing 0x80 0xBF (seen + 1) (bits * 0x40 + (b.toNat - 0x80)) s
    else .bad seen

/-- Looks at the front of the byte string `b :: s`. -/
def scan (b : UInt8) (s : List UInt8) : Scan :=
  if b.toNat < 0x80 then .char (Char.ofNat b.toNat) 0
  else match lead? b.toNat with
    | none => .bad 0
    | some l => scanTail l.extra l.low l.high 0 l.bits s

/-- Why a byte string is no text. -/
structure Fault where
  /-- The bytes before this index are well formed. -/
  index : Nat
  /-- How many bytes form the ill-formed sequence; none where the input ends too early. -/
  length : Option Nat
deriving DecidableEq, Repr

def Fault.message (f : Fault) : String :=
  match f.length with
  | some n =>
    "invalid utf-8 sequence of " ++ Decimal.text n ++ " bytes from index " ++ Decimal.text f.index
  | none => "incomplete utf-8 byte sequence from index " ++ Decimal.text f.index

/-- The characters of a byte string that begins at `index`, or its first fault. -/
def decodeFrom (index : Nat) : List UInt8 → Except Fault (List Char)
  | [] => .ok []
  | b :: s =>
    match scan b s with
    | .char c extra => (decodeFrom (index + extra + 1) (s.drop extra)).map (c :: ·)
    | .bad extra => .error ⟨index, some (extra + 1)⟩
    | .cut => .error ⟨index, none⟩
termination_by s => s.length
decreasing_by simp only [List.length_drop, List.length_cons]; omega

/-- The text that a byte string encodes, or its first fault. -/
def decode? (s : List UInt8) : Except Fault String :=
  (decodeFrom 0 s).map String.ofList

/-- The character that stands for bytes that are no text. -/
def replacement : Char := Char.ofNat 0xFFFD

/-- The characters of a byte string, each maximal ill-formed sequence read as `replacement`. -/
def charsLossy : List UInt8 → List Char
  | [] => []
  | b :: s =>
    match scan b s with
    | .char c extra => c :: charsLossy (s.drop extra)
    | .bad extra => replacement :: charsLossy (s.drop extra)
    | .cut => [replacement]
termination_by s => s.length
decreasing_by all_goals simp only [List.length_drop, List.length_cons]; omega

/-- The text of any byte string, each maximal ill-formed sequence read as `replacement`. -/
def decodeLossy (s : List UInt8) : String :=
  String.ofList (charsLossy s)

end DocWire.Utf8

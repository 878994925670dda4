import DocWire.Json.Fault
import DocWire.Text.Utf8

/-! Readers for everything in a text that holds no other value. A reader takes the bytes that are
left and returns what it read with the bytes after it, or why it stopped. -/

namespace DocWire.Json

/-- The byte of an ASCII character. -/
abbrev byte (c : Char) : UInt8 := c.toNat.toUInt8

/-- The blanks between tokens. -/
def isBlank (b : UInt8) : Bool :=
  b = byte ' ' || b = byte '\n' || b = byte '\t' || b = byte '\r'

/-- The bytes after the blanks in front. -/
def skipBlanks (s : Bytes) : Bytes :=
  s.dropWhile isBlank

/-- Reads the rest of a word whose first letter is read. -/
def word : List Char → Bytes → Except Stop Bytes
  | [], s => .ok s
  | _ :: _, [] => .error (.before .eofInValue [])
  | c :: cs, b :: s => if b = byte c then word cs s else .error (.before .expectedIdent s)

/-- The value of a digit. -/
def digit? (b : UInt8) : Option Nat :=
  Decimal.digit? b.toNat

def startsWithDigit (s : Bytes) : Bool :=
  (s.head?.bind digit?).isSome

/-- Continues the significand `n` with the digits of the whole part. Once a digit does not fit, it
and all after it are only counted; `dropped` were so far. -/
def wholeDigits (n dropped : Nat) : Bytes → Nat × Nat × Bytes
  | [] => (n, dropped, [])
  | b :: s =>
    match digit? b with
    | none => (n, dropped, b :: s)
    | some d =>
      if dropped = 0 ∧ n * 10 + d ≤ Decimal.maxWord then wholeDigits (n * 10 + d) 0 s
      else wholeDigits n (dropped + 1) s

/-- Continues the significand `n` with the digits of the fraction, of which `taken` are in it. Once
a digit does not fit, it and all after it are ignored. -/
def fractionDigits (n taken : Nat) : Bytes → Nat × Nat × Bytes
  | [] => (n, taken, [])
  | b :: s =>
    match digit? b with
    | none => (n, taken, b :: s)
    | some d =>
      if n * 10 + d ≤ Decimal.maxWord then fractionDigits (n * 10 + d) (taken + 1) s
      else (n, taken, s.dropWhile fun b => (digit? b).isSome)

/-- The largest exponent that is read in full. -/
def maxPower : Nat := 0x7FFFFFFF

/-- Continues the exponent `n` with further digits. Without a number the digits went beyond
`maxPower`; what is left then begins after the first digit that did. -/
def powerDigits (n : Nat) : Bytes → Option Nat × Bytes
  | [] => (some n, [])
  | b :: s =>
    match digit? b with
    | none => (some n, b :: s)
    | some d => if n * 10 + d ≤ maxPower then powerDigits (n * 10 + d) s else (none, s)

/-- The floating-point number nearest to `10 ^ n`. -/
def powerOfTen (n : Nat) : Option Binary64 :=
  Binary64.ofRatio? false (Decimal.powerOfTen n) 1

/-- The number `± n · 10 ^ power`, by one multiplication or division of floating-point numbers.
Powers below `10 ^ -308` take several divisions. It fails if the number is too large. -/
def ofParts? (negative : Bool) (n : Nat) (power : Int) : Option Binary64 := do
  let x ← Binary64.ofRatio? negative n 1
  if 308 < power then
    if n = 0 then some x else none
  else if 0 ≤ power then x.mul? (← powerOfTen power.toNat)
  else if -308 ≤ power then x.div? (← powerOfTen power.natAbs)
  else if -616 ≤ power then
    let y ← x.div? (← powerOfTen 308)
    y.div? (← powerOfTen (power.natAbs - 308))
  else some (.zero negative)

/-- The floating-point number `± n · 10 ^ power`; `s` follows its text. -/
def float (negative : Bool) (n : Nat) (power : Int) (s : Bytes) : Except Stop (Number × Bytes) :=
  match ofParts? negative n power with
  | some x => .ok (.float x, s)
  | none => .error (.before .numberOutOfRange s)

/-- Reads an exponent whose letter is read, after the significand `n` and with the power that its
digits gave. -/
def exponent (negative : Bool) (n : Nat) (power : Int) (s : Bytes) : Except Stop (Number × Bytes) :=
  let (down, s) :=
    match s with
    | b :: r => if b = byte '-' then (true, r) else if b = byte '+' then (false, r) else (false, s)
    | [] => (false, [])
  match s with
  | [] => .error (.before .eofInValue [])
  | b :: s =>
    match digit? b with
    | none => .error (.before .invalidNumber s)
    | some d =>
      match powerDigits d s with
      | (some e, s) => float negative n (if down then power - e else power + e) s
      | (none, s) =>
        if n ≠ 0 ∧ !down then .error (.before .numberOutOfRange s)
        else .ok (.float (.zero negative), s.dropWhile fun b => (digit? b).isSome)

/-- Whether a byte string begins with the letter of an exponent. -/
def startsWithE (s : Bytes) : Bool :=
  s.head? = some (byte 'e') || s.head? = some (byte 'E')

/-- Reads a fraction whose point is read, after the significand `n` and with the power that the
whole part gave. -/
def fraction (negative : Bool) (n : Nat) (power : Int) (s : Bytes) : Except Stop (Number × Bytes) :=
  if !startsWithDigit s then
    .error (.within (if s.isEmpty then .eofInValue else .invalidNumber) s)
  else
    let (n, taken, s) := fractionDigits n 0 s
    if startsWithE s then exponent negative n (power - taken) s.tail
    else float negative n (power - taken) s

/-- The integer `± n`. Zero with a sign, and an integer outside of 63 bits with one, are
floating-point numbers. -/
def integer (negative : Bool) (n : Nat) (s : Bytes) : Except Stop (Number × Bytes) :=
  if !negative then .ok (.int n, s)
  else if 0 < n ∧ n ≤ maxInt64 + 1 then .ok (.int (-n), s)
  else float negative n 0 s

/-- Reads what follows the whole part of a number. -/
def afterWhole (negative : Bool) (n dropped : Nat) (s : Bytes) : Except Stop (Number × Bytes) :=
  if s.head? = some (byte '.') then fraction negative n dropped s.tail
  else if startsWithE s then exponent negative n dropped s.tail
  else if dropped = 0 then integer negative n s
  else float negative n dropped s

/-- Reads a number whose sign is read. A zero in front is the only digit of the whole part. -/
def number (negative : Bool) (s : Bytes) : Except Stop (Number × Bytes) :=
  match s with
  | [] => .error (.before .eofInValue [])
  | b :: r =>
    match digit? b with
    | none => .error (.before .invalidNumber r)
    | some 0 =>
      if startsWithDigit r then .error (.within .invalidNumber r) else afterWhole negative 0 0 r
    | some d =>
      let (n, dropped, r) := wholeDigits d 0 r
      afterWhole negative n dropped r

/-- The value of a digit of base sixteen. -/
def hexDigit? (b : UInt8) : Option Nat :=
  let n := b.toNat
  if 0x30 ≤ n ∧ n ≤ 0x39 then some (n - 0x30)
  else if 0x41 ≤ n ∧ n ≤ 0x46 then some (n - 0x41 + 10)
  else if 0x61 ≤ n ∧ n ≤ 0x66 then some (n - 0x61 + 10)
  else none

def hexEscape : Bytes → Except Stop (Nat × Bytes)
  | a :: b :: c :: d :: s =>
    match hexDigit? a, hexDigit? b, hexDigit? c, hexDigit? d with
    | some a, some b, some c, some d => .ok (((a * 16 + b) * 16 + c) * 16 + d, s)
    | _, _, _, _ => .error (.before .invalidEscape s)
  | _ => .error (.before .eofInString [])

/-- The character that a letter after a backslash stands for. -/
def shortEscape? (b : UInt8) : Option Char :=
  if b = byte '"' then some '"'
  else if b = byte '\\' then some '\\'
  else if b = byte '/' then some '/'
  else if b = byte 'b' then some '\x08'
  else if b = byte 'f' then some '\x0c'
  else if b = byte 'n' then some '\n'
  else if b = byte 'r' then some '\r'
  else if b = byte 't' then some '\t'
  else none

/-- Reads the second half of a surrogate pair, whose first half is `high`. -/
def lowSurrogate (high : Nat) (s : Bytes) : Except Stop (Char × Bytes) :=
  match s with
  | [] => .error (.before .eofInString [])
  | b :: s =>
    if b ≠ byte '\\' then .error (.before .unfinishedSurrogatePair s)
    else match s with
      | [] => .error (.before .eofInString [])
      | b :: s =>
        if b ≠ byte 'u' then .error (.before .unfinishedSurrogatePair s)
        else do
          let (low, s) ← hexEscape s
          if low < 0xDC00 ∨ 0xDFFF < low then .error (.before .loneSurrogate s)
          else return (Char.ofNat ((high - 0xD800) * 0x400 + (low - 0xDC00) + 0x10000), s)

/-- Reads an escape by number, after its backslash and letter. Characters beyond four digits are
written as two surrogates; one of them alone is a fault. -/
def numberedEscape (s : Bytes) : Except Stop (Char × Bytes) := do
  let (n, s) ← hexEscape s
  if 0xDC00 ≤ n ∧ n ≤ 0xDFFF then .error (.before .loneSurrogate s)
  else if 0xD800 ≤ n ∧ n ≤ 0xDBFF then lowSurrogate n s
  else return (Char.ofNat n, s)

/-- Reads an escape whose backslash is read. -/
def escape : Bytes → Except Stop (Char × Bytes)
  | [] => .error (.before .eofInString [])
  | b :: s =>
    match shortEscape? b with
    | some c => .ok (c, s)
    | none => if b = byte 'u' then numberedEscape s else .error (.before .invalidEscape s)

/-- Whether a byte stands for itself inside a string. -/
def isPlain (b : UInt8) : Bool :=
  0x20 ≤ b && b ≠ byte '"' && b ≠ byte '\\'

/-- The characters of a stretch of plain bytes; `s` follows it. The fault of bytes that are no text
lies at the end of the first ill-formed sequence. -/
def plainChars (stretch s : Bytes) : Except Stop (List Char) :=
  match Utf8.decodeFrom 0 stretch with
  | .ok cs => .ok cs
  | .error fault =>
    let rest := match fault.length with
      | some n => stretch.drop (fault.index + n) ++ s
      | none => s
    .error (.before .invalidCodePoint rest)

/-- Reads the characters of a string up to and with its closing quotation mark; `steps` bounds the
number of escapes. -/
def stringChars : (steps : Nat) → Bytes → Except Stop (List Char × Bytes)
  | 0, s => .error (.before .eofInString s)
  | steps + 1, s => do
    let (stretch, rest) := s.span isPlain
    match rest with
    | [] => .error (.before .eofInString [])
    | b :: r =>
      if b = byte '"' then return (← plainChars stretch rest, r)
      else if b = byte '\\' then
        let cs ← plainChars stretch rest
        let (c, r) ← escape r
        let (ds, r) ← stringChars steps r
        return (cs ++ c :: ds, r)
      else .error (.before .controlCharacter r)

/-- Reads a string whose opening quotation mark is read. -/
def string (s : Bytes) : Except Stop (String × Bytes) :=
  (stringChars (s.length + 1) s).map fun (cs, s) => (String.ofList cs, s)

end DocWire.Json

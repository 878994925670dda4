import DocWire.Json.Scan

/-! A record's reader passes over the members that it does not know. Strings are not decoded there,
numbers have no range, and containers may stand in each other as deep as they like. -/

namespace DocWire.Json

/-- Passes over the characters of a string up to and with its closing quotation mark; `steps` bounds
the number of escapes. -/
def skipString : (steps : Nat) → Bytes → Except Stop Bytes
  | 0, s => .error (.before .eofInString s)
  | steps + 1, s =>
    let rest := s.dropWhile isPlain
    match rest with
    | [] => .error (.before .eofInString [])
    | b :: r =>
      if b = byte '"' then .ok r
      else if b ≠ byte '\\' then .error (.before .controlCharacter rest)
      else match r with
        | [] => .error (.before .eofInString [])
        | e :: r =>
          if (shortEscape? e).isSome then skipString steps r
          else if e = byte 'u' then do
            let (_, r) ← hexEscape r
            skipString steps r
          else .error (.before .invalidEscape r)

/-- The bytes after the digits in front. -/
def skipDigits (s : Bytes) : Bytes :=
  s.dropWhile fun b => (digit? b).isSome

/-- Passes over an exponent whose letter is read. -/
def skipExponent (s : Bytes) : Except Stop Bytes :=
  let s := match s with
    | b :: r => if b = byte '+' || b = byte '-' then r else s
    | [] => []
  if startsWithDigit s then .ok (skipDigits s) else .error (.before .invalidNumber s.tail)

/-- Passes over a number whose sign is read. -/
def skipNumber (s : Bytes) : Except Stop Bytes := do
  if !startsWithDigit s then throw (.before .invalidNumber s.tail)
  let r := s.tail
  let zero := s.head? = some (byte '0')
  if zero && startsWithDigit r then throw (.within .invalidNumber r)
  let r := skipDigits r
  if r.head? = some (byte '.') then
    let r := r.tail
    if !startsWithDigit r then throw (.within .invalidNumber r)
    let r := skipDigits r
    if startsWithE r then skipExponent r.tail else return r
  else if startsWithE r then skipExponent r.tail
  else return r

/-- A container that is open. -/
inductive Container where
  | list
  | object
deriving DecidableEq, Repr

namespace Container

/-- The byte that closes a container. -/
def closing : Container → UInt8
  | .list => byte ']'
  | .object => byte '\x7d'

/-- The end of the text inside a container. -/
def eof : Container → Cause
  | .list => .eofInList
  | .object => .eofInObject

/-- Neither a comma nor the end of the container after an item. -/
def expectedCommaOrEnd : Container → Cause
  | .list => .expectedListCommaOrEnd
  | .object => .expectedObjectCommaOrEnd

/-- Passes over the name and the colon in front of a member. -/
def skipName (c : Container) (s : Bytes) : Except Stop Bytes :=
  match c with
  | .list => .ok s
  | .object => do
    let s := skipBlanks s
    match s with
    | [] => throw (.within .eofInObject [])
    | b :: r =>
      if b ≠ byte '"' then throw (.within .keyNotAString s)
      let s := skipBlanks (← skipString (r.length + 1) r)
      match s with
      | [] => throw (.within .eofInObject [])
      | b :: r => if b = byte ':' then return r else throw (.within .expectedColon s)

end Container

mutual

/-- Passes over a value inside the open containers; `steps` bounds the number of tokens. -/
def skipValue (steps : Nat) (containers : List Container) (s : Bytes) : Except Stop Bytes :=
  match steps with
  | 0 => .error (.before .tooDeep s)
  | steps + 1 =>
    let s := skipBlanks s
    match s with
    | [] => .error (.within .eofInValue [])
    | b :: r =>
      if b = byte '[' then skipRest steps false (.list :: containers) r
      else if b = byte '\x7b' then skipRest steps false (.object :: containers) r
      else do
        let r ←
          if b = byte 'n' then word ['u', 'l', 'l'] r
          else if b = byte 't' then word ['r', 'u', 'e'] r
          else if b = byte 'f' then word ['a', 'l', 's', 'e'] r
          else if b = byte '-' then skipNumber r
          else if (digit? b).isSome then skipNumber s
          else if b = byte '"' then skipString (r.length + 1) r
          else .error (.within .expectedValue s)
        skipRest steps true containers r

/-- Passes over what is left of the open containers. A comma may come first after an item. -/
def skipRest (steps : Nat) (afterItem : Bool) (containers : List Container) (s : Bytes) :
    Except Stop Bytes :=
  match steps, containers with
  | _, [] => .ok s
  | 0, _ => .error (.before .tooDeep s)
  | steps + 1, c :: outer =>
    let s := skipBlanks s
    match s with
    | [] => .error (.within c.eof [])
    | b :: r =>
      if b = c.closing then skipRest steps true outer r
      else if afterItem && b ≠ byte ',' then .error (.within c.expectedCommaOrEnd s)
      else do skipValue steps (c :: outer) (← c.skipName (if afterItem then r else s))

end

/-- Passes over a value. -/
def skip (s : Bytes) : Except Stop Bytes :=
  skipValue (3 * s.length + 3) [] s

end DocWire.Json

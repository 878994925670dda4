import DocWire.Json.Scan

namespace DocWire.Json

/-- How many open containers are one too many. -/
def maxDepth : Nat := 128

/-- After an item of an array: what is left begins with the next item, or the array is closed. -/
def nextItem (first : Bool) (s : Bytes) : Except Stop (Option Bytes) :=
  let s := skipBlanks s
  match s with
  | [] => .error (.within .eofInList [])
  | b :: r =>
    if b = byte ']' then .ok none
    else if first then .ok (some s)
    else if b = byte ',' then
      let r := skipBlanks r
      match r with
      | [] => .error (.within .eofInValue [])
      | b :: _ => if b = byte ']' then .error (.within .trailingComma r) else .ok (some r)
    else .error (.within .expectedListCommaOrEnd s)

/-- Reads the name of the next member of an object, unless the object is closed. -/
def nextName (first : Bool) (s : Bytes) : Except Stop (Option (String × Bytes)) :=
  let s := skipBlanks s
  match s with
  | [] => .error (.within .eofInObject [])
  | b :: r =>
    if b = byte '\x7d' then .ok none
    else if first then
      if b = byte '"' then (string r).map some else .error (.within .keyNotAString s)
    else if b = byte ',' then
      let r := skipBlanks r
      match r with
      | [] => .error (.within .eofInValue [])
      | b :: t =>
        if b = byte '"' then (string t).map some
        else if b = byte '\x7d' then .error (.within .trailingComma r)
        else .error (.within .keyNotAString r)
    else .error (.within .expectedObjectCommaOrEnd s)

/-- Reads the colon after the name of a member. -/
def colon (s : Bytes) : Except Stop Bytes :=
  let s := skipBlanks s
  match s with
  | [] => .error (.within .eofInObject [])
  | b :: r => if b = byte ':' then .ok r else .error (.within .expectedColon s)

/-- Reads the bracket that closes an array of which no further item is wanted. -/
def closeArray (s : Bytes) : Except Stop Bytes :=
  let s := skipBlanks s
  match s with
  | [] => .error (.within .eofInList [])
  | b :: r =>
    if b = byte ']' then .ok r
    else if b = byte ',' then
      let r := skipBlanks r
      .error (.within (if r.head? = some (byte ']') then .trailingComma else .trailingCharacters) r)
    else .error (.within .trailingCharacters s)

/-- Reads the brace that closes an object of which no further member is wanted. -/
def closeObject (s : Bytes) : Except Stop Bytes :=
  let s := skipBlanks s
  match s with
  | [] => .error (.within .eofInObject [])
  | b :: r =>
    if b = byte '\x7d' then .ok r
    else .error (.within (if b = byte ',' then .trailingComma else .trailingCharacters) s)

mutual

/-- Reads a value below `depth` more levels; `steps` bounds the number of tokens. -/
def value (steps depth : Nat) (s : Bytes) : Except Stop (Value × Bytes) :=
  match steps with
  | 0 => .error (.before .tooDeep s)
  | steps + 1 =>
    let s := skipBlanks s
    match s with
    | [] => .error (.within .eofInValue [])
    | b :: r =>
      if b = byte 'n' then (word ['u', 'l', 'l'] r).map (.null, ·)
      else if b = byte 't' then (word ['r', 'u', 'e'] r).map (.bool true, ·)
      else if b = byte 'f' then (word ['a', 'l', 's', 'e'] r).map (.bool false, ·)
      else if b = byte '-' then (number true r).map fun (n, s) => (.number n, s)
      else if (digit? b).isSome then (number false s).map fun (n, s) => (.number n, s)
      else if b = byte '"' then (string r).map fun (t, s) => (.string t, s)
      else if b = byte '[' then
        if depth ≤ 1 then .error (.within .tooDeep s)
        else do
          let (vs, s) ← items steps (depth - 1) true r
          return (.array vs, ← closeArray s)
      else if b = byte '\x7b' then
        if depth ≤ 1 then .error (.within .tooDeep s)
        else do
          let (ms, s) ← members steps (depth - 1) true r
          return (.ofMembers ms, ← closeObject s)
      else .error (.within .expectedValue s)

/-- Reads the items of an array up to its bracket. -/
def items (steps depth : Nat) (first : Bool) (s : Bytes) : Except Stop (List Value × Bytes) :=
  match steps with
  | 0 => .error (.before .tooDeep s)
  | steps + 1 => do
    match ← nextItem first s with
    | none => return ([], skipBlanks s)
    | some s =>
      let (v, s) ← value steps depth s
      let (vs, s) ← items steps depth false s
      return (v :: vs, s)

/-- Reads the members of an object up to its brace. -/
def members (steps depth : Nat) (first : Bool) (s : Bytes) :
    Except Stop (List (String × Value) × Bytes) :=
  match steps with
  | 0 => .error (.before .tooDeep s)
  | steps + 1 => do
    match ← nextName first s with
    | none => return ([], skipBlanks s)
    | some (name, s) =>
      let (v, s) ← value steps depth (← colon s)
      let (ms, s) ← members steps depth false s
      return ((name, v) :: ms, s)

end

/-- What has to follow the value of a text: blanks, and then its end. -/
def endOfText (s : Bytes) : Except Stop Unit :=
  let s := skipBlanks s
  if s.isEmpty then .ok () else .error (.within .trailingCharacters s)

/-- Enough steps for any text of the given length: each token takes a byte, and no more than three
readers are entered for one. -/
def stepsFor (s : Bytes) : Nat :=
  3 * s.length + 3

/-- Reads the value of a text given by its bytes. -/
def parse (s : Bytes) : Except Fault Value :=
  let result := do
    let (v, r) ← value (stepsFor s) maxDepth s
    endOfText r
    return v
  result.mapError (·.inText s)

/-- Reads the value of a text. -/
def parseText (s : String) : Except Fault Value :=
  parse (Utf8.encode s)

end DocWire.Json

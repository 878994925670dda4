import DocWire.Json.Parse

namespace DocWire.Json

/-- Why the value at the front of `s`, which does not begin with a blank, is not the wanted one. The
value is read as far as that is needed to name it, which can itself fail. -/
def unwanted (wanted : String) (s : Bytes) : Stop :=
  match s with
  | [] => .within .expectedValue []
  | b :: r =>
    let named {α : Type} (what : α → Found) : Except Stop (α × Bytes) → Stop
      | .ok (a, r) => .before (.wrongType (what a) wanted) r
      | .error stop => stop
    if b = byte 'n' then named (fun _ => .null) ((word ['u', 'l', 'l'] r).map ((), ·))
    else if b = byte 't' then named (fun _ => .bool true) ((word ['r', 'u', 'e'] r).map ((), ·))
    else if b = byte 'f' then
      named (fun _ => .bool false) ((word ['a', 'l', 's', 'e'] r).map ((), ·))
    else if b = byte '-' then named .number (number true r)
    else if (digit? b).isSome then named .number (number false s)
    else if b = byte '"' then named .string (string r)
    else if b = byte '[' then .before (.wrongType .sequence wanted) s
    else if b = byte '\x7b' then .before (.wrongType .map wanted) s
    else .within .expectedValue s

/-- The natural number that a number is. -/
def asNatural (wanted : String) (n : Number) (s : Bytes) : Except Stop (Nat × Bytes) :=
  match n with
  | .int (.ofNat k) => .ok (k, s)
  | .int _ => .error (.before (.wrongValue (.number n) wanted) s)
  | .float _ => .error (.before (.wrongType (.number n) wanted) s)

/-- Reads a natural number of at most 64 bits. -/
def readNatural (wanted : String) (s : Bytes) : Except Stop (Nat × Bytes) := do
  let s := skipBlanks s
  match s with
  | [] => throw (.within .eofInValue [])
  | b :: r =>
    if b = byte '-' then
      let (n, r) ← number true r
      asNatural wanted n r
    else if (digit? b).isSome then
      let (n, r) ← number false s
      asNatural wanted n r
    else throw (unwanted wanted s)

/-- Reads a text. -/
def readText (wanted : String) (s : Bytes) : Except Stop (String × Bytes) :=
  let s := skipBlanks s
  match s with
  | [] => .error (.within .eofInValue [])
  | b :: r => if b = byte '"' then string r else .error (unwanted wanted s)

/-- Reads the texts of a list up to its bracket; `steps` bounds their number. -/
def readTextItems : (steps : Nat) → (first : Bool) → Bytes → Except Stop (List String × Bytes)
  | 0, _, s => .error (.before .tooDeep s)
  | steps + 1, first, s => do
    match ← nextItem first s with
    | none => return ([], skipBlanks s)
    | some s =>
      let (t, s) ← readText "a string" s
      let (ts, s) ← readTextItems steps false s
      return (t :: ts, s)

/-- Reads a list of texts. -/
def readTextList (s : Bytes) : Except Stop (List String × Bytes) := do
  let s := skipBlanks s
  match s with
  | [] => throw (.within .eofInValue [])
  | b :: r =>
    if b = byte '[' then
      let (ts, r) ← readTextItems (r.length + 1) true r
      return (ts, ← closeArray r)
    else throw (unwanted "a sequence" s)

end DocWire.Json

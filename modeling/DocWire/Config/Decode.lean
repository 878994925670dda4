import DocWire.Config
import DocWire.Json.Skip
import DocWire.Json.Typed

/-! A file holds an object with a member for each setting that it makes, or a list with the values
of the first settings. A setting that is not made keeps its value. -/

namespace DocWire.Config

open Json

/-- Reads the value of a setting. -/
def Field.read (f : Field) (c : Config) (s : Bytes) : Except Stop (Config × Bytes) := do
  match f with
  | .serverPath =>
    let (path, s) ← readText "path string" s
    return ({ c with serverPath := path }, s)
  | .serverArgs =>
    let (args, s) ← readTextList s
    return ({ c with serverArgs := args }, s)
  | .timeoutSecs =>
    let (n, s) ← readNatural "u64" s
    return ({ c with timeoutSecs := n }, s)
  | .readChunk =>
    let (n, s) ← readNatural "usize" s
    return ({ c with readChunk := n }, s)

/-- Reads the values of settings in their order, up to the bracket or to the last setting. -/
def readItems (c : Config) : List Field → (first : Bool) → Bytes → Except Stop (Config × Bytes)
  | [], _, s => .ok (c, s)
  | f :: fields, first, s => do
    match ← nextItem first s with
    | none => return (c, s)
    | some s =>
      let (c, s) ← f.read c s
      readItems c fields false s

/-- The bytes after an object that is closed here, or after the blanks where it is not. -/
def pastObject (s : Bytes) : Bytes :=
  match closeObject s with
  | .ok r => r
  | .error _ => skipBlanks s

/-- Reads members up to the brace; `steps` bounds their number, and the settings in `made` must not
be made again. A setting made twice is noticed when the object has been left. -/
def readMembers (c : Config) (made : List Field) :
    (steps : Nat) → (first : Bool) → Bytes → Except Stop (Config × Bytes)
  | 0, _, s => .error (.before .tooDeep s)
  | steps + 1, first, s => do
    match ← nextName first s with
    | none => return (c, s)
    | some (name, s) =>
      match Field.ofName? name with
      | none => readMembers c made steps false (← skip (← colon s))
      | some f =>
        if made.contains f then throw (.before (.duplicateField f.name) (pastObject s))
        let (c, s) ← f.read c (← colon s)
        readMembers c (f :: made) steps false s

/-- Reads settings that are made in the place of those of `c`. -/
def read (c : Config) (s : Bytes) : Except Stop (Config × Bytes) := do
  let s := skipBlanks s
  match s with
  | [] => throw (.within .eofInValue [])
  | b :: r =>
    if b = byte '[' then
      let (c, r) ← readItems c Field.all true r
      return (c, ← closeArray r)
    else if b = byte '\x7b' then
      let (c, r) ← readMembers c [] (r.length + 1) true r
      return (c, ← closeObject r)
    else throw (unwanted "struct ClientConfig" s)

/-- The settings in a text, made in the place of the default ones. -/
def parse (contents : String) : Except Json.Fault Config :=
  let s := Utf8.encode contents
  let result := do
    let (c, r) ← read .default s
    endOfText r
    return c
  result.mapError (·.inText s)

end DocWire.Config

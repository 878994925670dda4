import DocWire.Decimal.Shortest
import DocWire.Json.Value

/-! Two layouts of the same text: `compact` without any space, for the wire, and `pretty` with two
spaces of indentation, for readers. -/

namespace DocWire.Json

/-- When a floating-point number is written with an exponent, given by the power of ten of its first
digit: from `10 ^ 16` on and below `10 ^ -5`. -/
def needsExponent (power : Int) : Bool :=
  16 ≤ power || power < -5

/-- The digits of a positive floating-point number, in its layout. -/
def floatDigits (d : Decimal.Scientific) : List Char :=
  let ds := Decimal.digits d.digits
  let power : Int := d.exponent + ds.length - 1
  if needsExponent power then
    let tail := if ds.length ≤ 1 then [] else '.' :: ds.drop 1
    let sign := if 0 ≤ power then '+' else '-'
    ds.take 1 ++ tail ++ ['e', sign] ++ Decimal.digits power.natAbs
  else if 0 ≤ d.exponent then ds ++ List.replicate d.exponent.toNat '0' ++ ['.', '0']
  else if 0 ≤ power then
    ds.take (power.toNat + 1) ++ '.' :: ds.drop (power.toNat + 1)
  else ['0', '.'] ++ List.replicate (-power - 1).toNat '0' ++ ds

/-- The text of a floating-point number: the fewest digits that read back, and always with a point
or an exponent. -/
def floatText (x : Binary64) : String :=
  let size := if x.significand = 0 then ['0', '.', '0'] else floatDigits (Decimal.shortest x)
  String.ofList (if x.negative then '-' :: size else size)

/-- The text of an integer. -/
def intText (n : Int) : String :=
  if n < 0 then "-" ++ Decimal.text n.natAbs else Decimal.text n.natAbs

def Number.text : Number → String
  | .int n => intText n
  | .float x => floatText x

/-- One of the sixteen digits in lower case. -/
def hexDigit (d : Nat) : Char :=
  if d < 10 then Char.ofNat (0x30 + d) else Char.ofNat (0x61 + (d - 10))

/-- A character of a string. Nothing is escaped but what has to be. -/
def escapeChar (c : Char) : List Char :=
  if c = '"' then ['\\', '"']
  else if c = '\\' then ['\\', '\\']
  else if c = '\x08' then ['\\', 'b']
  else if c = '\x0c' then ['\\', 'f']
  else if c = '\n' then ['\\', 'n']
  else if c = '\r' then ['\\', 'r']
  else if c = '\t' then ['\\', 't']
  else if c.toNat < 0x20 then
    ['\\', 'u', '0', '0', hexDigit (c.toNat / 16), hexDigit (c.toNat % 16)]
  else [c]

/-- The text of a string. -/
def stringText (s : String) : String :=
  String.ofList ('"' :: s.toList.flatMap escapeChar ++ ['"'])

/-- A line break followed by `depth` levels of indentation. -/
def newline (depth : Nat) : String :=
  String.ofList ('\n' :: List.replicate (2 * depth) ' ')

mutual

/-- The text of a value without spaces. -/
def Value.compact : Value → String
  | .null => "null"
  | .bool b => if b then "true" else "false"
  | .number n => n.text
  | .string s => stringText s
  | .array items => "[" ++ ",".intercalate (compactItems items) ++ "]"
  | .object members => "\x7b" ++ ",".intercalate (compactMembers members) ++ "\x7d"

/-- The texts of the items of an array. -/
def compactItems : List Value → List String
  | [] => []
  | v :: vs => v.compact :: compactItems vs

/-- The texts of the members of an object. -/
def compactMembers : List (String × Value) → List String
  | [] => []
  | (name, v) :: vs => (stringText name ++ ":" ++ v.compact) :: compactMembers vs

end

mutual

/-- The text of a value that stands `depth` levels deep, one item or member to a line. -/
def Value.prettyAt (depth : Nat) : Value → String
  | .array (v :: vs) =>
    "[" ++ newline (depth + 1) ++
      ("," ++ newline (depth + 1)).intercalate (prettyItems (depth + 1) (v :: vs)) ++
      newline depth ++ "]"
  | .object (m :: ms) =>
    "\x7b" ++ newline (depth + 1) ++
      ("," ++ newline (depth + 1)).intercalate (prettyMembers (depth + 1) (m :: ms)) ++
      newline depth ++ "\x7d"
  | v => v.compact

/-- The texts of the items of an array. -/
def prettyItems (depth : Nat) : List Value → List String
  | [] => []
  | v :: vs => v.prettyAt depth :: prettyItems depth vs

/-- The texts of the members of an object. -/
def prettyMembers (depth : Nat) : List (String × Value) → List String
  | [] => []
  | (name, v) :: vs => (stringText name ++ ": " ++ v.prettyAt depth) :: prettyMembers depth vs

end

/-- The text of a value on several lines. -/
def Value.pretty (v : Value) : String :=
  v.prettyAt 0

end DocWire.Json

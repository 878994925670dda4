import DocWire.Bytes
import DocWire.Json.Text
import DocWire.Text.Quoted

/-! A reader reports the cause and how many bytes were left where it stopped. Only the outermost
caller knows the whole text and turns that count into a line and a column. -/

namespace DocWire.Json

/-- What stands where a value of another type was wanted. -/
inductive Found where
  | null
  | bool (b : Bool)
  | number (n : Number)
  | string (s : String)
  | sequence
  | map
deriving Repr

/-- How a message names what was found. -/
def Found.describe : Found → String
  | .null => "null"
  | .bool b => "boolean `" ++ (if b then "true" else "false") ++ "`"
  | .number (.int n) => "integer `" ++ intText n ++ "`"
  | .number (.float x) => "floating point `" ++ floatText x ++ "`"
  | .string s => "string " ++ Text.quoted s
  | .sequence => "sequence"
  | .map => "map"

/-- What is wrong with a text. -/
inductive Cause where
  | eofInList
  | eofInObject
  | eofInString
  | eofInValue
  | expectedColon
  | expectedListCommaOrEnd
  | expectedObjectCommaOrEnd
  | expectedIdent
  | expectedValue
  | invalidEscape
  | invalidNumber
  | numberOutOfRange
  | invalidCodePoint
  | controlCharacter
  | keyNotAString
  | loneSurrogate
  | unfinishedSurrogatePair
  | trailingComma
  | trailingCharacters
  | tooDeep
  /-- A value of another type than the wanted one. -/
  | wrongType (found : Found) (wanted : String)
  /-- A value of the wanted type outside its range. -/
  | wrongValue (found : Found) (wanted : String)
  /-- A field of a record that was given before. -/
  | duplicateField (name : String)
deriving Repr

/-- The wording of a cause. -/
def Cause.message : Cause → String
  | .eofInList => "EOF while parsing a list"
  | .eofInObject => "EOF while parsing an object"
  | .eofInString => "EOF while parsing a string"
  | .eofInValue => "EOF while parsing a value"
  | .expectedColon => "expected `:`"
  | .expectedListCommaOrEnd => "expected `,` or `]`"
  | .expectedObjectCommaOrEnd => "expected `,` or `\x7d`"
  | .expectedIdent => "expected ident"
  | .expectedValue => "expected value"
  | .invalidEscape => "invalid escape"
  | .invalidNumber => "invalid number"
  | .numberOutOfRange => "number out of range"
  | .invalidCodePoint => "invalid unicode code point"
  | .controlCharacter => "control character (\\u0000-\\u001F) found while parsing a string"
  | .keyNotAString => "key must be a string"
  | .loneSurrogate => "lone leading surrogate in hex escape"
  | .unfinishedSurrogatePair => "unexpected end of hex escape"
  | .trailingComma => "trailing comma"
  | .trailingCharacters => "trailing characters"
  | .tooDeep => "recursion limit exceeded"
  | .wrongType found wanted => "invalid type: " ++ found.describe ++ ", expected " ++ wanted
  | .wrongValue found wanted => "invalid value: " ++ found.describe ++ ", expected " ++ wanted
  | .duplicateField name => "duplicate field `" ++ name ++ "`"

/-- Where and why a reader stopped. -/
structure Stop where
  cause : Cause
  /-- How many bytes follow the place of the fault. -/
  left : Nat
deriving Repr

/-- The fault lies in what was read last; `s` follows it. -/
def Stop.before (cause : Cause) (s : Bytes) : Stop :=
  ⟨cause, s.length⟩

/-- The fault lies in the first byte of `s`, or at the end if there is none. -/
def Stop.within (cause : Cause) (s : Bytes) : Stop :=
  ⟨cause, s.length - 1⟩

/-- A fault in a whole text. Lines count from one, columns count the bytes since the line began. -/
structure Fault where
  cause : Cause
  line : Nat
  column : Nat
deriving Repr

def Fault.message (f : Fault) : String :=
  f.cause.message ++ " at line " ++ Decimal.text f.line ++ " column " ++ Decimal.text f.column

/-- The byte that ends a line. -/
def lineFeed : UInt8 := 0x0A

/-- The fault in the text `s` for which a reader stopped. -/
def Stop.inText (stop : Stop) (s : Bytes) : Fault :=
  let before := s.take (s.length - stop.left)
  ⟨stop.cause, before.count lineFeed + 1, (before.reverse.takeWhile (· ≠ lineFeed)).length⟩

end DocWire.Json

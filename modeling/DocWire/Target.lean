import DocWire.Error
import DocWire.Text.Utf8

/-! A target is a path of segments, each made from a text by dropping line breaks and tabs and by
percent-escaping. A component that is a dot segment as given is refused; one that becomes a dot
segment through the dropping is resolved as in any path. -/

namespace DocWire.Target

/-- Characters that are dropped: tabs and the two characters of line breaks. -/
def isDropped (c : Char) : Bool :=
  c = '\t' || c = '\n' || c = '\r'

/-- Bytes that stand in a segment as they are. -/
def isLiteral (b : UInt8) : Bool :=
  0x21 ≤ b && b ≤ 0x7E && !"\"#<>?`\x7b\x7d/%".toList.any (fun c => c.toNat = b.toNat)

/-- One of the sixteen digits in upper case. -/
def hexDigit (d : Nat) : Char :=
  if d < 10 then Char.ofNat (0x30 + d) else Char.ofNat (0x41 + (d - 10))

/-- A byte as it stands in a segment. -/
def escapeByte (b : UInt8) : List Char :=
  if isLiteral b then [Char.ofNat b.toNat]
  else ['%', hexDigit (b.toNat / 16), hexDigit (b.toNat % 16)]

/-- The segment made from a component. -/
def escape (component : String) : String :=
  String.ofList (((component.toList.filter (!isDropped ·)).flatMap Utf8.encodeChar).flatMap
    escapeByte)

/-- The name of a drive: a letter with a colon or a bar. Two dots do not lead out of it. -/
def isDrive (segment : String) : Bool :=
  match segment.toList with
  | [c, mark] => c.isAlpha && (mark = ':' || mark = '|')
  | _ => false

/-- Takes the last segment away, unless it names a drive. -/
def leave (path : List String) : List String :=
  match path.getLast? with
  | none => []
  | some last => if isDrive last then path else path.dropLast

/-- Appends a segment to a path. The path of one empty segment is the root, whose segment the first
one replaces. -/
def append (path : List String) (segment : String) : List String :=
  let path := if path = [""] then [] else path
  if segment = "." then path ++ [""]
  else if segment = ".." then leave path ++ [""]
  else path ++ [segment]

def pathOf (components : List String) : List String :=
  components.foldl (fun path c => append path (escape c)) [""]

/-- The text of a path. Slashes in front mean nothing. -/
def text (path : List String) : String :=
  String.ofList (("/".intercalate path).toList.dropWhile (· = '/'))

def isDot (component : String) : Bool :=
  component = "." || component = ".."

/-- The target made from components, unless one of them is a dot segment. -/
def build (components : List String) : Except TargetFault String :=
  match components.find? isDot with
  | some dot => .error (.dotSegment components dot)
  | none => .ok (text (pathOf components))

end DocWire.Target

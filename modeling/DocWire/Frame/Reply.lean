import DocWire.Frame
import DocWire.Json.Parse
import DocWire.Response

/-! The body of a reply's frame is the id of the request it answers, a space, and the answer, whose
first byte is its tag: `S` for a text, `J` for a document, `E` for a refusal. Only a missing id
makes a frame no reply. -/

namespace DocWire

/-- An answer with the id it is for. An id that is no text was read with replacement characters. -/
structure Reply where
  id : String
  response : Response
deriving Repr

namespace Reply

/-- The frame of a reply, with the answer given as its bytes. -/
def encode (id : String) (answer : Bytes) : Bytes :=
  Frame.encode (Utf8.encode id ++ Bytes.space :: answer)

/-- Why an answer with a known tag cannot be read. -/
inductive Malformed where
  | text (fault : Utf8.Fault)
  | document (fault : Json.Fault)
  | refusal (fault : Json.Fault)

/-- The wording of the cause. -/
def Malformed.message : Malformed → String
  | .text fault => "Unable to parse response: " ++ fault.message
  | .document fault => "Unable to parse response: " ++ fault.message
  | .refusal fault => "Unable to parse error response: " ++ fault.message

/-- The response to an answer that cannot be read. -/
def malformed (cause : Malformed) : Response :=
  .failure ⟨.malformed, cause.message⟩

/-- The response to an answer whose tag means nothing. -/
def unknownTag (tag : UInt8) : Response :=
  .failure ⟨.unknownTag,
    "Unknown response type code (" ++ Text.quotedChar (Char.ofNat tag.toNat) ++ ")"⟩

/-- The response to an answer without a tag. -/
def emptyAnswer : Response :=
  .failure ⟨.emptyResponse, "Empty response"⟩

/-- Reads the text of a plain answer. -/
def readText (s : Bytes) : Response :=
  match Utf8.decode? s with
  | .ok text => .text text
  | .error fault => malformed (.text fault)

/-- Reads the document of a structured answer. -/
def readDocument (s : Bytes) : Response :=
  match Json.parse s with
  | .ok doc => .document doc
  | .error fault => malformed (.document fault)

/-- Reads the document that explains a refusal. -/
def readRefusal (s : Bytes) : Response :=
  match Json.parse s with
  | .ok doc => .failure (.ofDocument doc)
  | .error fault => malformed (.refusal fault)

/-- The tag of plain texts. -/
def textTag : UInt8 := 0x53

/-- The tag of documents. -/
def documentTag : UInt8 := 0x4A

/-- The tag of refusals. -/
def refusalTag : UInt8 := 0x45

/-- Reads an answer by its tag. -/
def readAnswer : Bytes → Response
  | [] => emptyAnswer
  | tag :: s =>
    if tag = textTag then readText s
    else if tag = documentTag then readDocument s
    else if tag = refusalTag then readRefusal s
    else unknownTag tag

/-- Reads the body of a reply's frame, unless it has no id. -/
def decode? (body : Bytes) : Option Reply :=
  body.splitAtSpace?.map fun (id, answer) => ⟨Utf8.decodeLossy id, readAnswer answer⟩

end Reply

end DocWire

namespace DocWire

/-- What a request asks the server to do with its target. -/
inductive Method where
  | get
  | post
  | put
  | delete
deriving DecidableEq, Repr

namespace Method

/-- All methods. -/
def all : List Method := [.get, .post, .put, .delete]

/-- The letter of a method on the wire. -/
def code : Method → UInt8
  | .get => 0x47
  | .post => 0x50
  | .put => 0x55
  | .delete => 0x44

/-- The method with a given letter. -/
def ofCode? (code : UInt8) : Option Method :=
  all.find? (·.code = code)

/-- The word for a method. -/
def name : Method → String
  | .get => "GET"
  | .post => "POST"
  | .put => "PUT"
  | .delete => "DELETE"

/-- The wire letter as a text. -/
def letter (m : Method) : String :=
  String.singleton (Char.ofNat m.code.toNat)

/-- Reads a method from its letter or its word, in upper or lower case. -/
def parse? (s : String) : Option Method :=
  let s := s.map Char.toUpper
  all.find? fun m => s = m.letter ∨ s = m.name

end Method

end DocWire

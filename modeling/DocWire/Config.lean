import DocWire.Client

namespace DocWire

structure Config where
  serverPath : String := "xaprun"
  /-- The arguments it is started with. -/
  serverArgs : List String := ["--stdio"]
  /-- How many seconds a request may take; zero means as long as it takes. -/
  timeoutSecs : Nat := Client.defaultTimeoutSecs
  /-- How many bytes are asked of the server at a time. -/
  readChunk : Nat := Connection.defaultReadChunk
deriving DecidableEq, Repr

namespace Config

def default : Config := {}

def timeout (c : Config) : Option Duration :=
  if c.timeoutSecs = 0 then none else some (.ofSecs c.timeoutSecs)

/-- A setting, by what a file calls it. -/
inductive Field where
  | serverPath
  | serverArgs
  | timeoutSecs
  | readChunk
deriving DecidableEq, Repr

namespace Field

/-- The settings in the order in which a list gives them. -/
def all : List Field := [.serverPath, .serverArgs, .timeoutSecs, .readChunk]

def name : Field → String
  | .serverPath => "server_path"
  | .serverArgs => "server_args"
  | .timeoutSecs => "timeout_secs"
  | .readChunk => "read_chunk"

def ofName? (name : String) : Option Field :=
  all.find? (·.name = name)

/-- The text of a setting's value. -/
def valueText (f : Field) (c : Config) : String :=
  match f with
  | .serverPath => Json.stringText c.serverPath
  | .serverArgs => (Json.Value.array (c.serverArgs.map .string)).compact
  | .timeoutSecs => Decimal.text c.timeoutSecs
  | .readChunk => Decimal.text c.readChunk

end Field

/-- The settings as the text of a file. -/
def text (c : Config) : String :=
  let member (f : Field) := Json.stringText f.name ++ ":" ++ f.valueText c
  "\x7b" ++ ",".intercalate (Field.all.map member) ++ "\x7d"

/-- A client on a transport, with the settings that concern it. -/
def client {σ : Type} (c : Config) (transport : σ) : Client σ :=
  ⟨.withReadChunk c.readChunk transport, c.timeout⟩

end Config

end DocWire

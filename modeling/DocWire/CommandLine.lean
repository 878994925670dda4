import DocWire.Config.Resolve
import DocWire.Transport

/-! A run reads its arguments, resolves its settings, starts the server, carries out one command and
reports what came of it. -/

namespace DocWire

def usage : String :=
  "usage: xaprun-client [--config PATH] [--server PATH] [--timeout SECS] " ++
    "<version | insert DB JSON | get DB DOCID | delete DB DOCID | schema DB [JSON] | " ++
    "raw METHOD TARGET [BODY]>"

/-- Why a run comes to nothing. -/
inductive RunFailure where
  /-- The arguments are no way to use the program. -/
  | usage
  /-- An option lacks its value. -/
  | missingValue (option what : String)
  | badTimeout (value : String) (fault : Decimal.Fault)
  | settings (cause : Config.Failure)
  /-- The server cannot be started. -/
  | start (program : String) (cause : Error)
  | badDocument (text : String) (fault : Json.Fault)
  | unknownMethod (word : String)
  | unknownCommand (word : String)
  /-- The request came to nothing. -/
  | request (cause : Error)
  /-- The server's answer to a raw request is a failure. -/
  | refused (failure : Failure)

/-- The wording of an error and of what is behind it. -/
def Error.chain (e : Error) : List String :=
  e.message :: (e.cause?.map (·.message)).toList

/-- The wording of a failure and of what is behind it, outermost first. -/
def RunFailure.chain : RunFailure → List String
  | .usage => [DocWire.usage]
  | .missingValue option what => [option ++ " needs a " ++ what]
  | .badTimeout value fault => ["Invalid timeout: " ++ value, fault.message]
  | .settings cause => cause.chain
  | .start program cause => ("Couldn't start " ++ program) :: cause.chain
  | .badDocument text fault => ["Invalid JSON: " ++ text, fault.message]
  | .unknownMethod word => ["Unknown method: " ++ word]
  | .unknownCommand word => ["Unknown command: " ++ word ++ "\n" ++ DocWire.usage]
  | .request cause => cause.chain
  | .refused failure => [failure.describe]

/-- The arguments of a run: options, and the words of the command. -/
structure Arguments where
  config : Option String := none
  server : Option String := none
  timeoutSecs : Option Nat := none
  command : List String := []
deriving DecidableEq, Repr

namespace Arguments

/-- Reads options up to the first word that is none; that word and all after it are the command. An
option that is given again counts the last time. -/
def parseFrom (a : Arguments) : List String → Except RunFailure Arguments
  | [] => .error .usage
  | ["--config"] => .error (.missingValue "--config" "path")
  | ["--server"] => .error (.missingValue "--server" "path")
  | ["--timeout"] => .error (.missingValue "--timeout" "value")
  | "--config" :: path :: rest => parseFrom { a with config := some path } rest
  | "--server" :: path :: rest => parseFrom { a with server := some path } rest
  | "--timeout" :: value :: rest =>
    match Decimal.read value with
    | .ok n => parseFrom { a with timeoutSecs := some n } rest
    | .error fault => .error (.badTimeout value fault)
  | "-h" :: _ => .error .usage
  | "--help" :: _ => .error .usage
  | words => .ok { a with command := words }

def parse (words : List String) : Except RunFailure Arguments :=
  parseFrom {} words

/-- Puts the settings that options make over others. -/
def override (a : Arguments) (c : Config) : Config :=
  { c with
    serverPath := a.server.getD c.serverPath
    timeoutSecs := a.timeoutSecs.getD c.timeoutSecs }

def settings (a : Arguments) (s : Surroundings) : Except RunFailure Config :=
  match Config.resolve s a.config with
  | .ok c => .ok (a.override c)
  | .error cause => .error (.settings cause)

end Arguments

inductive Command where
  | version
  | database (db : Database) (call : DatabaseCall)
  | raw (method : Method) (target : String) (body : String)
deriving Repr

namespace Command

/-- Reads a document that is given as a word. -/
def document (word : String) : Except RunFailure Json.Value :=
  (Json.parseText word).mapError (.badDocument word)

/-- Reads the words of a command. Words beyond those that a command takes mean nothing. -/
def parse : List String → Except RunFailure Command
  | [] => .error .usage
  | "version" :: _ => .ok .version
  | "insert" :: db :: doc :: _ => return .database ⟨db⟩ (.insert (← document doc))
  | "get" :: db :: docid :: _ => .ok (.database ⟨db⟩ (.get docid))
  | "delete" :: db :: docid :: _ => .ok (.database ⟨db⟩ (.delete docid))
  | "schema" :: db :: doc :: _ => return .database ⟨db⟩ (.setSchema (← document doc))
  | ["schema", db] => .ok (.database ⟨db⟩ .schema)
  | "raw" :: word :: rest =>
    match Method.parse? word, rest with
    | none, _ => .error (.unknownMethod word)
    | some _, [] => .error .usage
    | some m, [target] => .ok (.raw m target "")
    | some m, target :: body :: _ => .ok (.raw m target body)
  | word :: _ =>
    if ["insert", "get", "delete", "schema", "raw"].contains word then .error .usage
    else .error (.unknownCommand word)

end Command

/-- How far a run has come on its connection: what it has printed, what it has come to, if it is
over, and what it has done. A failure does not take back what was printed before. -/
structure Progress (σ α : Type) where
  printed : String
  result : Option (Except RunFailure α)
  connection : Connection σ
  trace : List Event

/-- A stage of a run, which begins with a client. -/
def Stage (σ α : Type) : Type :=
  Client σ → Progress σ α

namespace Stage

variable {σ α β : Type}

/-- Comes to this and does nothing. -/
def lift (result : Except RunFailure α) : Stage σ α := fun c =>
  ⟨"", some result, c.connection, []⟩

/-- Goes on with what the first stage has come to, unless it has failed. -/
def andThen (first : Stage σ α) (next : α → Stage σ β) : Stage σ β := fun c =>
  let p := first c
  match p.result with
  | none => { p with result := none }
  | some (.error failure) => { p with result := some (.error failure) }
  | some (.ok a) =>
    let q := next a { c with connection := p.connection }
    { q with printed := p.printed ++ q.printed, trace := p.trace ++ q.trace }

instance : Monad (Stage σ) where
  pure a := lift (.ok a)
  bind := andThen

def printLine (s : String) : Stage σ Unit := fun c =>
  ⟨s ++ "\n", some (.ok ()), c.connection, []⟩

/-- Makes a call to the server. -/
def ask (call : Client σ → Outcome σ α) : Stage σ α := fun c =>
  let o := call c
  { printed := ""
    result := match o.ending with
      | .returned a => some (.ok a)
      | .failed e => some (.error (.request e))
      | .aborted => none
      | .stalled => none
    connection := o.connection
    trace := o.trace }

end Stage

namespace Command

open Stage (lift printLine ask)

variable {σ : Type} [Transport σ]

/-- Prints the response to a raw request, if it is no failure. -/
def showResponse : Response → Stage σ Unit
  | .text s => printLine s
  | .document doc => printLine doc.pretty
  | .failure f => lift (.error (.refused f))

def execute : Command → Stage σ Unit
  | .version => do printLine (← ask Client.version)
  | .database db (.insert doc) => do printLine (← ask (db.insert · doc))
  | .database db (.get docid) => do printLine (← ask (db.get · docid)).pretty
  | .database db (.delete docid) => ask (db.delete · docid)
  | .database db .schema => do printLine (← ask db.schema).pretty
  | .database db (.setSchema doc) => ask (db.setSchema · doc)
  | .raw method target body => do
    showResponse (← ask fun c => c.connection.sendWait method target (Utf8.encode body) c.timeout)

/-- Reads the words of a command and carries it out. -/
def run (words : List String) : Stage σ Unit := do
  execute (← lift (parse words))

end Command

structure Report where
  exitCode : Nat
  stdout : String
  stderr : String
deriving DecidableEq, Repr

namespace Report

/-- A text whose further lines are indented. -/
def indented (margin : String) (s : String) : String :=
  ("\n" ++ margin).intercalate (s.splitOn "\n")

/-- The causes behind a failure, each on lines of its own; several are numbered. -/
def causeLines : List String → List String
  | [cause] => ["    " ++ indented "    " cause]
  | causes => causes.zipIdx.map fun (cause, n) =>
    "    " ++ Decimal.text n ++ ": " ++ indented "       " cause

/-- The text of a failure with what is behind it. -/
def failureText : List String → String
  | [] => ""
  | [outermost] => "Error: " ++ outermost ++ "\n"
  | outermost :: causes =>
    "Error: " ++ outermost ++ "\n\nCaused by:\n" ++ "\n".intercalate (causeLines causes) ++ "\n"

/-- The report of a run that has printed this and has come to this. -/
def of (printed : String) : Except RunFailure Unit → Report
  | .ok () => ⟨0, printed, ""⟩
  | .error f => ⟨1, printed, failureText f.chain⟩

end Report

/-- A run: what it has printed, what it has come to, unless the server's answer is still awaited,
and what it did. -/
structure Run where
  printed : String
  result : Option (Except RunFailure Unit)
  trace : List Event

namespace Run

variable {σ : Type} [Transport σ]

/-- The report of a run that is over. -/
def report (r : Run) : Option Report :=
  r.result.map (.of r.printed)

/-- The run that comes to nothing before there is a connection. -/
def failed (f : RunFailure) : Run :=
  ⟨"", some (.error f), []⟩

/-- Carries out the words of a command on a new connection, and closes the connection. Whether it is
closed without a failure makes no difference. -/
def onTransport (c : Config) (words : List String) (transport : σ) : Run :=
  let p := Command.run words (c.client transport)
  ⟨p.printed, p.result, p.trace ++ p.connection.close.trace⟩

/-- A whole run. The server is started before the command is looked at. -/
def of (s : Surroundings) (start : String → List String → Except IoError σ)
    (words : List String) : Run :=
  match Arguments.parse words with
  | .error f => failed f
  | .ok a =>
    match a.settings s with
    | .error f => failed f
    | .ok c =>
      match start c.serverPath c.serverArgs with
      | .error e => failed (.start c.serverPath (.connectionFailed e))
      | .ok transport => onTransport c a.command transport

/-- The file that a run reads its settings from, if it comes to that. -/
def settingsFile? (s : Surroundings) (words : List String) : Option String :=
  match Arguments.parse words with
  | .error _ => none
  | .ok a => if a.config.isSome then a.config else s.defaultConfigPath?

/-- The program that a run starts, if it comes to that. -/
def program? (s : Surroundings) (words : List String) : Option String :=
  match Arguments.parse words with
  | .error _ => none
  | .ok a => (a.settings s).toOption.map (·.serverPath)

/-- Everything that a run writes to the server. -/
def written (r : Run) : Bytes :=
  r.trace.flatMap fun
    | .write data _ => data
    | _ => []

end Run

end DocWire

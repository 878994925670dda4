import DocWire.Connection
import DocWire.Response.Check
import DocWire.Target

/-! Every call sends one request, waits for its response, and asks the response for success. A call
whose target cannot be built sends nothing. -/

namespace DocWire

/-- The outcome after looking at its result once more. -/
def Outcome.andThen {σ α β : Type} (o : Outcome σ α) (f : α → Except Error β) : Outcome σ β :=
  match o.ending with
  | .returned a =>
    match f a with
    | .ok b => o.endingWith (.returned b)
    | .error e => o.endingWith (.failed e)
  | .failed e => o.endingWith (.failed e)
  | .aborted => o.endingWith .aborted
  | .stalled => o.endingWith .stalled

/-- A client: a connection, and how long a request may take. -/
structure Client (σ : Type) where
  connection : Connection σ
  timeout : Option Duration

namespace Client

variable {σ : Type}

/-- How many seconds a request may take unless something else is set. -/
def defaultTimeoutSecs : Nat := 30

def ofConnection (connection : Connection σ) : Client σ :=
  ⟨connection, some (.ofSecs defaultTimeoutSecs)⟩

/-- The client that goes on after an outcome. -/
def resume {α : Type} (c : Client σ) (o : Outcome σ α) : Client σ :=
  { c with connection := o.connection }

variable [Transport σ]

/-- Sends a request and asks its response for success. -/
def request (c : Client σ) (method : Method) (target : String) (payload : Bytes) :
    Outcome σ Response :=
  (c.connection.sendWait method target payload c.timeout).andThen (·.check)

/-- An item that is a text. A number counts as its text. -/
def textItem (key : String) : Json.Value → Except Error String
  | .string s => .ok s
  | .number n => .ok n.text
  | v => .error (.protocol (.notAText key v))

def version (c : Client σ) : Outcome σ String :=
  (c.request .get "version" []).andThen fun r => do textItem "msg" (← r.item "msg")

end Client

/-- What can be asked of a database. -/
inductive DatabaseCall where
  | insert (doc : Json.Value)
  | get (docid : String)
  | delete (docid : String)
  | schema
  | setSchema (newSchema : Json.Value)
deriving Repr

namespace DatabaseCall

def method : DatabaseCall → Method
  | .insert _ => .put
  | .get _ => .get
  | .delete _ => .delete
  | .schema => .get
  | .setSchema _ => .put

/-- Where in the database the request goes. -/
def place : DatabaseCall → List String
  | .insert _ => ["docs"]
  | .get docid => ["docs", docid]
  | .delete docid => ["docs", docid]
  | .schema => ["schema"]
  | .setSchema _ => ["schema"]

def payload : DatabaseCall → Bytes
  | .insert doc => Utf8.encode doc.compact
  | .setSchema newSchema => Utf8.encode newSchema.compact
  | _ => []

/-- The components of the request's target, for a database of the given name. -/
def components (call : DatabaseCall) (name : String) : List String :=
  "db" :: name :: call.place

end DatabaseCall

structure Database where
  name : String
deriving DecidableEq, Repr

namespace Database

variable {σ : Type} [Transport σ]

/-- Makes a call and asks its response for success. -/
def call (db : Database) (c : Client σ) (what : DatabaseCall) : Outcome σ Response :=
  match Target.build (what.components db.name) with
  | .error fault => c.connection.finish (.failed (.invalidTarget fault))
  | .ok target => c.request what.method target what.payload

/-- Stores a document and returns the id that the server gave it. -/
def insert (db : Database) (c : Client σ) (doc : Json.Value) : Outcome σ String :=
  (db.call c (.insert doc)).andThen fun r => do Client.textItem "docid" (← r.item "docid")

def get (db : Database) (c : Client σ) (docid : String) : Outcome σ Json.Value :=
  (db.call c (.get docid)).andThen (·.item "doc")

def delete (db : Database) (c : Client σ) (docid : String) : Outcome σ Unit :=
  (db.call c (.delete docid)).andThen fun _ => .ok ()

def schema (db : Database) (c : Client σ) : Outcome σ Json.Value :=
  (db.call c .schema).andThen (·.item "schema")

def setSchema (db : Database) (c : Client σ) (newSchema : Json.Value) : Outcome σ Unit :=
  (db.call c (.setSchema newSchema)).andThen fun _ => .ok ()

end Database

end DocWire

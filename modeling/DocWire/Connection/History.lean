import DocWire.Connection

/-! A connection lives through calls of its user and through changes that the other side makes to
the transport in between. A history is a list of such steps. -/

namespace DocWire

inductive Call where
  | send (method : Method) (target : String) (payload : Bytes) (k : Callback)
  | check (limit : Option Duration)
  | sendWait (method : Method) (target : String) (payload : Bytes) (limit : Option Duration)
  | close
  | release
deriving DecidableEq, Repr

inductive Returned where
  | nothing
  /-- Whether a response was dispatched. -/
  | dispatched (b : Bool)
  | response (r : Response)
deriving Repr

/-- One step in the life of a connection over a transport of type `σ`. -/
inductive Step (σ : Type) where
  | call (what : Call)
  /-- What the other side does between two calls. -/
  | meanwhile (change : σ → σ)

namespace Connection

variable {σ : Type}

/-- The connection after its transport was changed from the other side. -/
def changing (change : σ → σ) (c : Connection σ) : Connection σ :=
  { c with transport := change c.transport }

variable [Transport σ]

def perform (c : Connection σ) : Call → Outcome σ Returned
  | .send method target payload k => (c.send method target payload k).map fun _ => .nothing
  | .check limit => (c.check limit).map .dispatched
  | .sendWait method target payload limit => (c.sendWait method target payload limit).map .response
  | .close => c.close.map fun _ => .nothing
  | .release => c.release.map fun _ => .nothing

def take (c : Connection σ) : Step σ → Outcome σ Returned
  | .call what => c.perform what
  | .meanwhile change => (c.changing change).finish (.returned .nothing)

/-- The outcomes of the steps of a history, each on the connection that the one before leaves. -/
def outcomes (c : Connection σ) : List (Step σ) → List (Outcome σ Returned)
  | [] => []
  | step :: steps =>
    let o := c.take step
    o :: outcomes o.connection steps

def afterwards (c : Connection σ) (steps : List (Step σ)) : Connection σ :=
  steps.foldl (fun c step => (c.take step).connection) c

def traceOf (c : Connection σ) (steps : List (Step σ)) : List Event :=
  (c.outcomes steps).flatMap (·.trace)

theorem afterwards_append (c : Connection σ) (first rest : List (Step σ)) :
    c.afterwards (first ++ rest) = (c.afterwards first).afterwards rest :=
  List.foldl_append ..

end Connection

end DocWire

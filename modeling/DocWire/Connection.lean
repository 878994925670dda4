import DocWire.Error
import DocWire.Frame.Reply
import DocWire.Frame.Request
import DocWire.Transport

/-! A connection gives every request a number, remembers who waits for it, and hands each reply to
whoever waits for the number that it names. An operation returns the connection it leaves behind and
the trace of the calls made to the transport and of the responses handed out. -/

namespace DocWire

/-- A callback that takes the response to a request. It is known by its label; one that `aborts`
ends the operation that ran it, right after taking the response. -/
structure Callback where
  label : String
  aborts : Bool := false
deriving DecidableEq, Repr

/-- Who waits for the response to a request. -/
inductive Recipient where
  /-- The caller of an operation that returns the response. Once that operation has returned, nobody
  listens any more. -/
  | caller
  | callback (k : Callback)
deriving DecidableEq, Repr

/-- Whether taking a response ends the operation that handed it out. -/
def Recipient.aborts : Recipient → Bool
  | .caller => false
  | .callback k => k.aborts

/-- A response handed out. A request refused by a closed connection has no id. -/
structure Delivery where
  id : Option String
  recipient : Recipient
  response : Response
deriving Repr

/-- What an operation does, one step at a time. Calls to the transport are noted with their
answers. -/
inductive Event where
  | write (data : Bytes) (answer : Except IoError Unit)
  | read (max : Nat) (deadline : Option Instant) (answer : Except IoError Bytes)
  | close (answer : Except IoError Unit)
  | deliver (delivery : Delivery)

inductive Ending (α : Type) where
  | returned (a : α)
  | failed (e : Error)
  /-- A callback ended the operation. -/
  | aborted
  /-- The transport has used up the wait's patience. -/
  | stalled
deriving Repr

/-- The requests that wait for a response, by the text of their number. Their order means
nothing. -/
abbrev Pending := List (String × Recipient)

namespace Pending

/-- Adds a request, in the place of one with the same id. -/
def insert (p : Pending) (id : String) (r : Recipient) : Pending :=
  (id, r) :: p.filter (·.1 ≠ id)

def erase (p : Pending) (id : String) : Pending :=
  p.filter (·.1 ≠ id)

/-- An erased request waits no longer, and all others go on waiting. -/
theorem lookup_erase (p : Pending) (id other : String) :
    (p.erase id).lookup other = if other = id then none else p.lookup other := by
  unfold erase
  induction p with
  | nil => simp
  | cons e p ih =>
    obtain ⟨i, r⟩ := e
    by_cases hi : i = id
    · subst hi
      by_cases ho : other = i
      · simpa [ho] using ih
      · have hb : (other == i) = false := by simpa using ho
        simpa [ho, List.lookup_cons, hb] using ih
    · by_cases ho : other = i
      · subst ho; simp [hi]
      · have hb : (other == i) = false := by simpa using ho
        simpa [hi, List.lookup_cons, hb] using ih

/-- An added request waits, and so do all others. -/
theorem lookup_insert (p : Pending) (id other : String) (r : Recipient) :
    (p.insert id r).lookup other = if other = id then some r else p.lookup other := by
  by_cases h : other = id
  · simp [insert, h]
  · have hb : (other == id) = false := by simpa using h
    have he := p.lookup_erase id other
    simp only [h, if_false] at he
    simp only [insert, List.lookup_cons, hb, h, if_false]
    exact he

/-- Whether an id stands before another: the shorter text first, and texts of one length in the
order of their characters. -/
def idPrecedes (a b : String) : Bool :=
  a.length < b.length || (a.length = b.length && a ≤ b)

/-- The requests in the order of their ids. -/
def inOrder (p : Pending) : List (String × Recipient) :=
  p.mergeSort fun a b => idPrecedes a.1 b.1

end Pending

structure Connection (σ : Type) where
  transport : σ
  pending : Pending := []
  nextId : Nat := 0
  decoder : Frame.Decoder := .empty
  closed : Bool := false
  /-- How many bytes are asked of the transport at a time. -/
  readChunk : Nat

/-- The ending with another result in the place of the one returned. -/
def Ending.map {α β : Type} (f : α → β) : Ending α → Ending β
  | .returned a => .returned (f a)
  | .failed e => .failed e
  | .aborted => .aborted
  | .stalled => .stalled

structure Outcome (σ α : Type) where
  ending : Ending α
  connection : Connection σ
  trace : List Event

namespace Connection

variable {σ : Type}

/-- How many bytes are asked of the transport at a time unless a number is given. -/
def defaultReadChunk : Nat := 1024

/-- A connection without requests, which asks for at least one byte at a time. -/
def withReadChunk (readChunk : Nat) (transport : σ) : Connection σ :=
  { transport, readChunk := max readChunk 1 }

def ofTransport (transport : σ) : Connection σ :=
  withReadChunk defaultReadChunk transport

def pendingCount (c : Connection σ) : Nat :=
  c.pending.length

/-- How many bytes wait for the rest of their frame. -/
def buffered (c : Connection σ) : Nat :=
  c.decoder.buffered

/-- The operation that does nothing and ends as given. -/
def finish {α : Type} (c : Connection σ) (ending : Ending α) : Outcome σ α :=
  ⟨ending, c, []⟩

end Connection

/-- The same outcome after further events. -/
def Outcome.after {σ α : Type} (o : Outcome σ α) (events : List Event) : Outcome σ α :=
  { o with trace := events ++ o.trace }

/-- The same effects with another ending. -/
def Outcome.endingWith {σ α β : Type} (o : Outcome σ α) (ending : Ending β) : Outcome σ β :=
  ⟨ending, o.connection, o.trace⟩

/-- The same effects with another result in the place of the one returned. -/
def Outcome.map {σ α β : Type} (o : Outcome σ α) (f : α → β) : Outcome σ β :=
  o.endingWith (o.ending.map f)

/-- The ending with which a recipient lets an operation go on to end as given. -/
def Recipient.allow {α : Type} (r : Recipient) (ending : Ending α) : Ending α :=
  if r.aborts then .aborted else ending

namespace Connection

variable {σ : Type} [Transport σ]

/-- Hands one response to waiting requests, one after the other, up to the first that aborts. The
flag tells whether one did; nothing is handed to those after it. -/
def deliverAll (response : Response) : List (String × Recipient) → List Event × Bool
  | [] => ([], false)
  | (id, r) :: rest =>
    let event := Event.deliver ⟨some id, r, response⟩
    if r.aborts then ([event], true)
    else
      let (events, aborted) := deliverAll response rest
      (event :: events, aborted)

/-- Closes the transport and lets every waiting request fail, in the order of their numbers. A
closed connection stays as it is. -/
def close (c : Connection σ) : Outcome σ Unit :=
  if c.closed then c.finish (.returned ())
  else
    let (answer, transport) := Transport.close c.transport
    let (deliveries, aborted) := deliverAll .connectionClosed c.pending.inOrder
    let ending :=
      if aborted then .aborted
      else match answer with
        | .ok () => .returned ()
        | .error e => .failed (.io e)
    ⟨ending, { c with transport, pending := [], closed := true }, .close answer :: deliveries⟩

/-- Closes the connection because of an error, which is the ending unless a callback aborts. A
failure to close is of no interest then. -/
def closeFor {α : Type} (c : Connection σ) (e : Error) : Outcome σ α :=
  let o := c.close
  match o.ending with
  | .aborted => o.endingWith .aborted
  | _ => o.endingWith (.failed e)

/-- Gives the connection up, which closes it. A failure to close is of no interest. -/
def release (c : Connection σ) : Outcome σ Unit :=
  let o := c.close
  match o.ending with
  | .failed _ => o.endingWith (.returned ())
  | _ => o

/-- The response to a request that could not be written. -/
def writeFailure (e : IoError) : Response :=
  .failure ⟨.transport, "Failed to send request: " ++ e.message⟩

theorem writeFailure_eq (e : IoError) :
    writeFailure e = .failure ⟨.transport, "Failed to send request: " ++ e.message⟩ :=
  rfl

/-- What follows a failed write: the request fails, and then the connection is closed. The request's
own callback comes first; if it aborts, the connection is not closed. -/
def giveUpWrite (c : Connection σ) (id : String) (r : Recipient) (e : IoError) : Outcome σ Unit :=
  let c := { c with pending := c.pending.erase id }
  let event := Event.deliver ⟨some id, r, writeFailure e⟩
  if r.aborts then ⟨.aborted, c, [event]⟩ else (c.closeFor (.io e)).after [event]

/-- Writes a request under the next number. -/
def issue (c : Connection σ) (method : Method) (target : String) (payload : Bytes)
    (r : Recipient) : Outcome σ Unit :=
  let id := Decimal.text c.nextId
  let frame := Request.encode { id, method, target, payload }
  let (answer, transport) := Transport.write frame c.transport
  let c := { c with transport, nextId := c.nextId + 1, pending := c.pending.insert id r }
  let event := Event.write frame answer
  match answer with
  | .ok () => ⟨.returned (), c, [event]⟩
  | .error e => (c.giveUpWrite id r e).after [event]

/-- Sends a request whose response goes to `r`. A target with a space in it is refused, and its
recipient never hears of it; a closed connection answers at once. -/
def sendTo (c : Connection σ) (method : Method) (target : String) (payload : Bytes)
    (r : Recipient) : Outcome σ Unit :=
  if target.toList.contains ' ' then c.finish (.failed (.invalidTarget (.unsendable target)))
  else if c.closed then
    ⟨r.allow (.returned ()), c, [.deliver ⟨none, r, .connectionClosed⟩]⟩
  else c.issue method target payload r

def send (c : Connection σ) (method : Method) (target : String) (payload : Bytes)
    (k : Callback) : Outcome σ Unit :=
  c.sendTo method target payload (.callback k)

def now (c : Connection σ) : Instant × Connection σ :=
  let (now, transport) := Transport.now c.transport
  (now, { c with transport })

/-- Whether a deadline has come. Without one the clock is not read. -/
def expired (c : Connection σ) (deadline : Option Instant) : Bool × Connection σ :=
  if deadline.isNone then (false, c)
  else
    let (now, c) := c.now
    (Instant.passed deadline now, c)

/-- Hands the body of a frame to the request it answers. A frame that answers none breaks the
protocol and leaves the waiting requests alone. -/
def dispatch (c : Connection σ) (body : Bytes) : Outcome σ Bool :=
  match Reply.decode? body with
  | none => c.finish (.failed (.protocol .noId))
  | some reply =>
    match c.pending.lookup reply.id with
    | none => c.finish (.failed (.protocol (.unknownId reply.id)))
    | some r =>
      ⟨r.allow (.returned true), { c with pending := c.pending.erase reply.id },
        [.deliver ⟨some reply.id, r, reply.response⟩]⟩

/-- What follows a failed read. The end of the stream closes the connection; any other failure is
only reported. -/
def giveUpRead {α : Type} (c : Connection σ) (e : IoError) : Outcome σ α :=
  if e.kind = .unexpectedEof then c.closeFor .connectionLost else c.finish (.failed (.io e))

/-- Dispatches one frame, reading until it is complete or the deadline has come. The deadline counts
only after the first read, so that what has already arrived is always seen. -/
def pollWithin (deadline : Option Instant) :
    (rounds : Nat) → (polled : Bool) → Connection σ → Outcome σ Bool
  | 0, _, c => c.finish .stalled
  | rounds + 1, polled, c =>
    let (next, decoder) := c.decoder.next
    let c := { c with decoder }
    match next with
    | .error fault => c.finish (.failed (.protocol (.frame fault)))
    | .ok (some body) => c.dispatch body
    | .ok none =>
      let (expired, c) := c.expired (if polled then deadline else none)
      if expired then c.finish (.returned false)
      else
        let (answer, transport) := Transport.read c.readChunk deadline c.transport
        let c := { c with transport }
        let event := Event.read c.readChunk deadline answer
        match answer with
        | .error e => (c.giveUpRead e).after [event]
        | .ok chunk =>
          (pollWithin deadline rounds true { c with decoder := c.decoder.push chunk }).after [event]

/-- Dispatches at most one frame before the deadline, and tells whether it did. A closed connection
has none. -/
def poll (c : Connection σ) (deadline : Option Instant) : Outcome σ Bool :=
  if c.closed then c.finish (.returned false)
  else pollWithin deadline (Transport.patience c.transport) false c

/-- Waits for a response, dispatches it, and tells whether there was one. Without a limit it waits
for as long as it takes. -/
def check (c : Connection σ) (limit : Option Duration) : Outcome σ Bool :=
  let (now, c) := c.now
  c.poll (Instant.deadline now limit)

/-- The response that an event hands to the caller for the request `id`. -/
def responseFor? (id : String) : Event → Option Response
  | .deliver ⟨some id', .caller, response⟩ => if id' = id then some response else none
  | _ => none

/-- The end of a wait: how long it may take, and when that is over. -/
structure Limit where
  span : Duration
  deadline : Instant

/-- The end of a wait that starts at `now`, if it has one. -/
def Limit.from? (now : Instant) (span : Option Duration) : Option Limit :=
  span.bind fun span => (now.after? span).map fun deadline => ⟨span, deadline⟩

/-- Polls until the request `id` is answered. All polls share one deadline, and none is made once it
has come, but for the first. -/
def await (id : String) (limit : Option Limit) :
    (rounds : Nat) → (polled : Bool) → Connection σ → Outcome σ Response
  | 0, _, c => c.finish .stalled
  | rounds + 1, polled, c =>
    let deadline := limit.map Limit.deadline
    let (expired, c) := c.expired (if polled then deadline else none)
    match limit, expired with
    | some limit, true => c.finish (.failed (.timeout limit.span))
    | _, _ =>
      let o := c.poll deadline
      match o.ending with
      | .failed e => o.endingWith (.failed e)
      | .aborted => o.endingWith .aborted
      | .stalled => o.endingWith .stalled
      | .returned _ =>
        match o.trace.findSome? (responseFor? id) with
        | some response => o.endingWith (.returned response)
        | none => (await id limit rounds true o.connection).after o.trace

/-- Enough rounds to hand out everything that has arrived and to see the deadline come. -/
def awaitRounds (c : Connection σ) : Nat :=
  Transport.patience c.transport + c.buffered + 2

/-- Sends a request and waits for its response. The limit is for the whole of it: the deadline is
fixed before the request is written. A request that is not answered in time keeps waiting, though
nobody listens. -/
def sendWait (c : Connection σ) (method : Method) (target : String) (payload : Bytes)
    (limit : Option Duration) : Outcome σ Response :=
  let (now, c) := c.now
  let limit := Limit.from? now limit
  let id := Decimal.text c.nextId
  let o := c.sendTo method target payload .caller
  match o.ending with
  | .failed e => o.endingWith (.failed e)
  | .aborted => o.endingWith .aborted
  | .stalled => o.endingWith .stalled
  | .returned () =>
    if c.closed then o.endingWith (.returned .connectionClosed)
    else (await id limit o.connection.awaitRounds false o.connection).after o.trace

end Connection

end DocWire

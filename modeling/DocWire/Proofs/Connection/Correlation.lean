import DocWire.Proofs.Connection.ExactlyOnce
import DocWire.Proofs.Connection.Listening

/-! As long as the incoming stream consists of replies to requests that were sent before their
replies began, every check that reports a response has run the callback of the request which the
next reply on the stream names. -/

namespace DocWire

/-- What happens to a connection over a loopback. -/
inductive Turn where
  | send (method : Method) (target : String) (payload : Bytes) (k : Callback)
  | check (limit : Option Duration)
  /-- Bytes arrive. -/
  | push (data : Bytes)
  /-- From now on bytes are handed out in pieces of at most this size. -/
  | inPiecesOf (n : Nat)
  /-- The next looks at the clock and reads take these times. -/
  | lag (times : List Nat)

namespace Turn

def step : Turn → Step Loopback
  | .send method target payload k => .call (.send method target payload k)
  | .check limit => .call (.check limit)
  | .push data => .meanwhile (·.push data)
  | .inPiecesOf n => .meanwhile (·.inPiecesOf n)
  | .lag times => .meanwhile (·.lagging times)

/-- The bytes that arrive. -/
def data : Turn → Bytes
  | .push data => data
  | _ => []

/-- The callback of the request that is sent. -/
def callback? : Turn → Option Callback
  | .send _ _ _ k => some k
  | _ => none

/-- A request that is sent is not refused, and its callback does not abort. -/
def Proper : Turn → Prop
  | .send _ target _ k => target.toList.contains ' ' = false ∧ k.aborts = false
  | _ => True

end Turn

/-- The bytes that have arrived. -/
def pushed (turns : List Turn) : Bytes :=
  turns.flatMap Turn.data

/-- The callbacks of the requests that were sent. The request with the number `n` is the one at
position `n`. -/
def sent (turns : List Turn) : List Callback :=
  turns.filterMap Turn.callback?

theorem pushed_append (turns : List Turn) (x : Turn) :
    pushed (turns ++ [x]) = pushed turns ++ x.data := by
  simp [pushed]

theorem sent_append (turns : List Turn) (x : Turn) :
    sent (turns ++ [x]) = sent turns ++ x.callback?.toList := by
  cases hCallback : x.callback? <;> simp [sent, hCallback]

/-- The tickets of requests that were sent one after the other. -/
def sentTickets (callbacks : List Callback) : List Ticket :=
  callbacks.mapIdx fun n k => ⟨some (Decimal.text n), .callback k⟩

theorem sentTickets_append (callbacks : List Callback) (k : Callback) :
    sentTickets (callbacks ++ [k]) =
      sentTickets callbacks ++ [⟨some (Decimal.text callbacks.length), .callback k⟩] :=
  List.mapIdx_concat

theorem length_ids_sentTickets (callbacks : List Callback) :
    ((sentTickets callbacks).filterMap Ticket.id).length = callbacks.length := by
  have hIds : (sentTickets callbacks).filterMap Ticket.id =
      callbacks.zipIdx.map fun e => Decimal.text e.2 := by
    rw [sentTickets, List.mapIdx_eq_zipIdx_map, List.filterMap_map, ← List.filterMap_eq_map]
    rfl
  rw [hIds, List.length_map, List.length_zipIdx]

namespace Posting

/-- What a reply comes to: its answer is handed to the callback of the request with its number. -/
def delivery? (p : Posting) (callbacks : List Callback) : Option Delivery := do
  let reply ← Reply.decode? p.body
  let k ← callbacks[p.number]?
  return ⟨some reply.id, .callback k, reply.response⟩

theorem delivery?_eq (p : Posting) (callbacks : List Callback) :
    p.delivery? callbacks = callbacks[p.number]?.map fun k =>
      ⟨some (Decimal.text p.number), .callback k, Reply.readAnswer p.answer⟩ := by
  rw [delivery?, decode?_body]
  cases callbacks[p.number]? <;> rfl

theorem delivery?_append {p : Posting} {callbacks : List Callback} {d : Delivery}
    (h : p.delivery? callbacks = some d) (more : List Callback) :
    p.delivery? (callbacks ++ more) = some d := by
  rw [delivery?_eq] at h ⊢
  obtain ⟨k, hk, rfl⟩ := Option.map_eq_some_iff.1 h
  obtain ⟨hLess, -⟩ := List.getElem?_eq_some_iff.1 hk
  rw [List.getElem?_append_left hLess, hk]
  rfl

/-- What replies came to does not change when more requests are sent. -/
theorem map_delivery?_append {handed : List Delivery} {postings : List Posting}
    {callbacks : List Callback} (h : handed.map some = postings.map (·.delivery? callbacks))
    (more : List Callback) :
    handed.map some = postings.map (·.delivery? (callbacks ++ more)) := by
  rw [h]
  refine List.map_congr_left ?_
  intro p hp
  have hMem : p.delivery? callbacks ∈ handed.map some := h ▸ List.mem_map_of_mem hp
  obtain ⟨d, -, hd⟩ := List.mem_map.1 hMem
  rw [← hd, delivery?_append hd.symm]

/-- One more reply is handed out. -/
theorem map_delivery?_concat {handed : List Delivery} {postings rest : List Posting} {p : Posting}
    {callbacks : List Callback} {d : Delivery}
    (h : handed.map some = (postings.take handed.length).map (·.delivery? callbacks))
    (hNext : postings.drop handed.length = p :: rest) (hDelivery : p.delivery? callbacks = some d) :
    (handed ++ [d]).map some =
        (postings.take (handed ++ [d]).length).map (·.delivery? callbacks) ∧
      postings.drop (handed ++ [d]).length = rest := by
  rw [List.length_append, List.length_singleton]
  constructor
  · rw [List.take_add_one, ← List.head?_drop, hNext, List.head?_cons, Option.toList_some,
      List.map_append, List.map_append, h, List.map_singleton, List.map_singleton, hDelivery]
  · rw [← List.drop_drop, hNext]
    rfl

end Posting

/-- Replies of whose frames a byte has arrived name requests that were sent. -/
def InTime (postings : List Posting) (turns : List Turn) : Prop :=
  ∀ earlier p rest, postings = earlier ++ p :: rest →
    (earlier.flatMap Posting.bytes).length + p.gap < (pushed turns).length →
    p.number < (sent turns).length

/-- Whether an event is anything but a failed write. -/
def Event.succeeds : Event → Bool
  | .write _ (.error _) => false
  | _ => true

/-- Whether a step reports that a response was dispatched. -/
def Outcome.dispatched {σ : Type} (o : Outcome σ Returned) : Bool :=
  match o.ending with
  | .returned (.dispatched true) => true
  | _ => false

namespace Connection

/-- A step that breaks no protocol, comes to its end and reports what it hands out. -/
structure Reports (o : Outcome Loopback Returned) : Prop where
  faultless : ∀ fault, o.ending ≠ .failed (.protocol fault)
  ends : o.ending ≠ .stalled
  counted : (deliveries o.trace).length = if o.dispatched then 1 else 0

/-- The state of affairs after some turns, when the stream of replies is known: the replies at
its front were handed out, each to the callback of its request, and the rest is still expected. -/
structure Correlated (postings : List Posting) (tail : Nat) (later : Bytes)
    (turns : List Turn) (c : Connection Loopback) (events : List Event) : Prop where
  live : c.Live
  accounts : Accounts c (sentTickets (sent turns)) events
  stream : pushed turns ++ later = wire postings tail
  expects : c.Expects later (wire (postings.drop (deliveries events).length) tail)
  handedOut : (deliveries events).map some =
    (postings.take (deliveries events).length).map (·.delivery? (sent turns))

variable {postings : List Posting} {tail : Nat} {later : Bytes} {turns : List Turn}
  {c : Connection Loopback} {events : List Event}

theorem Correlated.start (readChunk : Nat) (h : later = wire postings tail) :
    Correlated postings tail later [] (withReadChunk readChunk Loopback.empty) [] := by
  subst h
  exact ⟨⟨rfl, Nat.le_max_right _ _, Loopback.empty_steady⟩, withReadChunk_accounts _ _, rfl,
    Frame.Decoder.ahead_empty _, rfl⟩

/-- The next request gets the number of requests that were sent. -/
theorem Correlated.nextId_eq (h : Correlated postings tail later turns c events) :
    c.nextId = (sent turns).length := by
  rw [← length_ids_sentTickets, h.accounts.numbers, List.length_map, List.length_range]

/-- A request is taken on under the number of requests that were sent before it. -/
theorem Correlated.ticketFor_eq (h : Correlated postings tail later turns c events) (k : Callback) :
    c.ticketFor (.callback k) = ⟨some (Decimal.text (sent turns).length), .callback k⟩ := by
  rw [ticketFor, h.live.isOpen, h.nextId_eq]
  rfl

theorem Correlated.accepted_step {x : Turn} (h : Correlated postings tail later turns c events)
    (hProper : x.Proper) :
    sentTickets (sent turns) ++ c.accepted [x.step] = sentTickets (sent (turns ++ [x])) := by
  cases x with
  | send method target payload k =>
      have hSent : sent (turns ++ [.send method target payload k]) = sent turns ++ [k] :=
        sent_append ..
      rw [hSent, sentTickets_append, Turn.step, accepted,
        c.takenOn_send method payload k hProper.1, h.ticketFor_eq]
      rfl
  | check limit =>
      rw [Turn.step, accepted, c.takenOn_of_no_recipient rfl, sent_append]
      simp [accepted, Turn.callback?]
  | push | inPiecesOf | lag =>
      rw [sent_append]
      simp [Turn.step, accepted, Turn.callback?]

/-- The other side does nothing but let bytes arrive. -/
theorem Correlated.meanwhile (x : Turn) (change : Loopback → Loopback)
    (h : Correlated postings tail (x.data ++ later) turns c events) (hNone : x.callback? = none)
    (hSteady : (change c.transport).Steady)
    (hInbound : (change c.transport).inbound = c.transport.inbound ++ x.data) :
    Correlated postings tail later (turns ++ [x]) (c.take (.meanwhile change)).connection
        (events ++ (c.take (.meanwhile change)).trace) ∧
      Reports (c.take (.meanwhile change)) := by
  have hSent : sent (turns ++ [x]) = sent turns := by
    rw [sent_append, hNone]
    exact List.append_nil _
  have hQuiet : events ++ (c.take (.meanwhile change)).trace = events := List.append_nil _
  rw [hQuiet]
  refine ⟨⟨⟨h.live.isOpen, h.live.asks, hSteady⟩, ?_, ?_, ?_, ?_⟩, ⟨?_, ?_, rfl⟩⟩
  · rw [hSent]
    exact h.accounts.changing change
  · rw [pushed_append, List.append_assoc]
    exact h.stream
  · have hExpects := h.expects
    rw [Expects, ← List.append_assoc, ← hInbound] at hExpects
    exact hExpects
  · rw [hSent]
    exact h.handedOut
  · intro fault hEnding
    cases hEnding
  · intro hEnding
    cases hEnding

/-- What a request does that is not refused and whose write succeeds. -/
theorem perform_send_of_written {method : Method} {target : String} {payload : Bytes} {k : Callback}
    (hOpen : c.closed = false) (hTarget : target.toList.contains ' ' = false)
    (hWrites : ∀ e ∈ (c.perform (.send method target payload k)).trace, e.succeeds = true) :
    ∃ frame, c.perform (.send method target payload k) =
      ⟨.returned .nothing,
        { c with
          transport := (c.transport.write frame).2
          nextId := c.nextId + 1
          pending := c.pending.insert (Decimal.text c.nextId) (.callback k) },
        [.write frame (.ok ())]⟩ := by
  refine ⟨Request.encode ⟨Decimal.text c.nextId, method, target, payload⟩, ?_⟩
  simp only [perform, send, sendTo, hTarget, hOpen, issue, Bool.false_eq_true, if_false]
    at hWrites ⊢
  split at hWrites
  next hAnswer =>
    rw [hAnswer]
    rfl
  next e hAnswer =>
    have hFailed := hWrites _ (List.mem_cons_self ..)
    rw [hAnswer] at hFailed
    cases hFailed

theorem Correlated.send {method : Method} {target : String} {payload : Bytes} {k : Callback}
    (h : Correlated postings tail later turns c events)
    (hTarget : target.toList.contains ' ' = false) (hCalm : k.aborts = false)
    (hWrites : ∀ e ∈ (c.perform (.send method target payload k)).trace, e.succeeds = true) :
    Correlated postings tail later (turns ++ [.send method target payload k])
        (c.perform (.send method target payload k)).connection
        (events ++ (c.perform (.send method target payload k)).trace) ∧
      Reports (c.perform (.send method target payload k)) := by
  have hOpen := h.live.isOpen
  have hSent : sent (turns ++ [.send method target payload k]) = sent turns ++ [k] :=
    sent_append ..
  have hPushed : pushed (turns ++ [.send method target payload k]) = pushed turns := by
    rw [pushed_append]
    exact List.append_nil _
  have hAccounts := h.accounts.course (c.perform_follows (.send method target payload k)).course
    (c.takenOn_calm hCalm)
  rw [c.takenOn_send method payload k hTarget, h.ticketFor_eq] at hAccounts
  obtain ⟨frame, hPerform⟩ := perform_send_of_written hOpen hTarget hWrites
  rw [hPerform] at hAccounts ⊢
  obtain ⟨hSteady, hInbound⟩ := Loopback.write_steady h.live.steady frame
  have hQuiet : deliveries (events ++ [.write frame (.ok ())]) = deliveries events := by
    rw [deliveries_append]
    exact List.append_nil _
  refine ⟨⟨⟨hOpen, h.live.asks, hSteady⟩, ?_, ?_, ?_, ?_⟩, ⟨?_, ?_, rfl⟩⟩
  · rw [hSent, sentTickets_append]
    exact hAccounts
  · rw [hPushed]
    exact h.stream
  · have hExpects := h.expects
    rw [Expects, ← hInbound] at hExpects
    rw [hQuiet]
    exact hExpects
  · rw [hSent, hQuiet]
    exact Posting.map_delivery?_append h.handedOut [k]
  · intro fault hEnding
    cases hEnding
  · intro hEnding
    cases hEnding

/-- When the next reply on the stream names a request that was sent, its callback is still waiting:
everyone who was answered was named by a reply before it. -/
theorem Correlated.exists_lookup (h : Correlated postings tail later turns c events)
    (hDistinct : (postings.map Posting.number).Nodup) {p : Posting} {rest : List Posting}
    (hNext : postings.drop (deliveries events).length = p :: rest)
    (hSent : p.number < (sent turns).length) :
    ∃ k, (sent turns)[p.number]? = some k ∧
      c.pending.lookup (Decimal.text p.number) = some (.callback k) := by
  refine ⟨(sent turns)[p.number], List.getElem?_eq_getElem hSent, ?_⟩
  have hTaken : ⟨some (Decimal.text p.number), .callback (sent turns)[p.number]⟩ ∈
      sentTickets (sent turns) := List.mem_mapIdx.2 ⟨p.number, hSent, rfl⟩
  rcases List.mem_append.1 (h.accounts.balance.mem_iff.2 hTaken) with hWaits | hAnswered
  · obtain ⟨⟨id, r⟩, hMem, hSame⟩ := List.mem_map.1 hWaits
    cases hSame
    exact Pending.lookup_of_mem h.accounts.orderly.distinct hMem
  · exfalso
    obtain ⟨d, hd, hSame⟩ := List.mem_map.1 hAnswered
    have hMem : some d ∈ (postings.take (deliveries events).length).map
        (·.delivery? (sent turns)) := h.handedOut ▸ List.mem_map_of_mem hd
    obtain ⟨q, hq, hDelivery⟩ := List.mem_map.1 hMem
    rw [Posting.delivery?_eq] at hDelivery
    obtain ⟨k, -, rfl⟩ := Option.map_eq_some_iff.1 hDelivery
    have hNumber : q.number = p.number :=
      Decimal.text_injective (Option.some.inj (congrArg Ticket.id hSame))
    rw [← List.take_append_drop (deliveries events).length postings, hNext, List.map_append,
      List.map_cons] at hDistinct
    exact (List.nodup_append.1 hDistinct).2.2 _ (List.mem_map_of_mem hq) _
      (List.mem_cons_self ..) hNumber

/-- A reply that was taken off the stream had begun to arrive. -/
theorem Correlated.arrived (h : Correlated postings tail later turns c events)
    {c' : Connection Loopback} {p : Posting} {rest : List Posting}
    (hNext : postings.drop (deliveries events).length = p :: rest)
    (hExpects : c'.Expects later (wire rest tail)) :
    ((postings.take (deliveries events).length).flatMap Posting.bytes).length + p.gap <
      (pushed turns).length := by
  have hLater : later.length ≤ (wire rest tail).length := by
    have hLength := hExpects.length_le
    rw [List.length_append] at hLength
    omega
  have hStream := congrArg List.length h.stream
  have hGap := p.gap_lt_length_bytes
  rw [← List.take_append_drop (deliveries events).length postings, hNext] at hStream
  simp only [wire, List.flatMap_append, List.flatMap_cons, List.length_append] at hStream hLater
  omega

/-- The next reply runs the callback that waits for it. -/
theorem dispatch_of_lookup {p : Posting} {k : Callback}
    (hLookup : c.pending.lookup (Decimal.text p.number) = some (.callback k))
    (hCalm : k.aborts = false) :
    c.dispatch p.body =
      ⟨.returned true, { c with pending := c.pending.erase (Decimal.text p.number) },
        [.deliver ⟨some (Decimal.text p.number), .callback k, Reply.readAnswer p.answer⟩]⟩ := by
  have hAllow : (Recipient.callback k).aborts = false := hCalm
  simp [dispatch, Posting.decode?_body, hLookup, Recipient.allow, hAllow]

theorem Correlated.check (h : Correlated postings tail later turns c events)
    (hSizes : ∀ p ∈ postings, p.body.length ≤ Frame.maxSize)
    (hDistinct : (postings.map Posting.number).Nodup) (hInTime : InTime postings turns)
    (hCalm : ∀ k ∈ sent turns, k.aborts = false) (limit : Option Duration) :
    Correlated postings tail later (turns ++ [.check limit])
        (c.perform (.check limit)).connection (events ++ (c.perform (.check limit)).trace) ∧
      Reports (c.perform (.check limit)) := by
  have hSent : sent (turns ++ [.check limit]) = sent turns := by
    rw [sent_append]
    exact List.append_nil _
  have hStream : pushed (turns ++ [.check limit]) ++ later = wire postings tail := by
    rw [pushed_append, ← h.stream]
    exact congrArg (· ++ later) (List.append_nil _)
  have hAccounts := h.accounts.course (c.check_follows limit).course fun _ h => nomatch h
  have hPolled := check_polled (fun p hp => hSizes p (List.mem_of_mem_drop hp)) limit h.live
    h.expects
  rw [List.append_nil, ← hSent] at hAccounts
  change Correlated _ _ _ _ (c.check limit).connection (events ++ (c.check limit).trace) ∧
    Reports ((c.check limit).map .dispatched)
  generalize c.check limit = o at hAccounts hPolled ⊢
  cases hPolled with
  | waited c' quiet ending hSame hExpects hQuiet hEnding =>
      have hSameDeliveries : deliveries (events ++ quiet) = deliveries events := by
        rw [deliveries_append, hQuiet, List.append_nil]
      have hHanded := h.handedOut
      rw [← hSameDeliveries] at hExpects hHanded
      rw [← hSent] at hHanded
      refine ⟨⟨hSame.live, hAccounts, hStream, hExpects, hHanded⟩, ?_⟩
      rcases hEnding with rfl | ⟨e, rfl⟩ <;>
        exact ⟨(fun _ h => nomatch h), (fun h => nomatch h), congrArg List.length hQuiet⟩
  | took c' quiet p rest hSame hNext hExpects hQuiet =>
      have hOnTime : p.number < (sent turns).length := by
        refine hInTime _ p rest ?_ (h.arrived hNext hExpects)
        rw [← hNext, List.take_append_drop]
      obtain ⟨k, hk, hLookup⟩ := h.exists_lookup hDistinct hNext hOnTime
      rw [← hSame.pending] at hLookup
      have hDelivery : p.delivery? (sent turns) =
          some ⟨some (Decimal.text p.number), .callback k, Reply.readAnswer p.answer⟩ := by
        rw [Posting.delivery?_eq, hk]
        rfl
      rw [dispatch_of_lookup hLookup (hCalm k (List.mem_of_getElem? hk))] at hAccounts ⊢
      generalize (⟨some (Decimal.text p.number), .callback k, Reply.readAnswer p.answer⟩ :
        Delivery) = d at hAccounts hDelivery ⊢
      obtain ⟨hHanded, rfl⟩ := Posting.map_delivery?_concat h.handedOut hNext hDelivery
      have hOne : deliveries (quiet ++ [.deliver d]) = [d] := by
        rw [deliveries_append, hQuiet]
        rfl
      have hMore : deliveries (events ++ (quiet ++ [.deliver d])) = deliveries events ++ [d] := by
        rw [deliveries_append, hOne]
      rw [← hMore] at hHanded hExpects
      rw [← hSent] at hHanded
      exact ⟨⟨⟨hSame.live.isOpen, hSame.live.asks, hSame.live.steady⟩, hAccounts, hStream, hExpects,
        hHanded⟩, ⟨(fun _ h => nomatch h), (fun h => nomatch h), congrArg List.length hOne⟩⟩

theorem aborts_of_mem_sent (hProper : ∀ x ∈ turns, x.Proper) :
    ∀ k ∈ sent turns, k.aborts = false := by
  intro k hk
  obtain ⟨x, hx, hCallback⟩ := List.mem_filterMap.1 hk
  have hx' := hProper x hx
  cases x with
  | send method target payload k' =>
      obtain rfl : k' = k := Option.some.inj hCallback
      exact hx'.2
  | _ => cases hCallback

theorem Correlated.step {x : Turn}
    (h : Correlated postings tail (x.data ++ later) turns c events)
    (hSizes : ∀ p ∈ postings, p.body.length ≤ Frame.maxSize)
    (hDistinct : (postings.map Posting.number).Nodup) (hInTime : InTime postings turns)
    (hCalm : ∀ k ∈ sent turns, k.aborts = false) (hProper : x.Proper)
    (hWrites : ∀ e ∈ (c.take x.step).trace, e.succeeds = true) :
    Correlated postings tail later (turns ++ [x]) (c.take x.step).connection
        (events ++ (c.take x.step).trace) ∧ Reports (c.take x.step) := by
  cases x with
  | send method target payload k => exact h.send hProper.1 hProper.2 hWrites
  | check limit => exact h.check hSizes hDistinct hInTime hCalm limit
  | push data =>
      exact h.meanwhile (.push data) (·.push data) rfl (h.live.steady.push data) rfl
  | inPiecesOf n =>
      exact h.meanwhile (.inPiecesOf n) (·.inPiecesOf n) rfl (h.live.steady.inPiecesOf n)
        (List.append_nil _).symm
  | lag times =>
      exact h.meanwhile (.lag times) (·.lagging times) rfl (h.live.steady.lagging times)
        (List.append_nil _).symm

theorem Correlated.run {xs : List Turn}
    (h : Correlated postings tail (pushed xs ++ later) turns c events)
    (hSizes : ∀ p ∈ postings, p.body.length ≤ Frame.maxSize)
    (hDistinct : (postings.map Posting.number).Nodup)
    (hInTime : ∀ before after, turns ++ xs = before ++ after → InTime postings before)
    (hProper : ∀ x ∈ turns ++ xs, x.Proper)
    (hWrites : ∀ e ∈ c.traceOf (xs.map Turn.step), e.succeeds = true) :
    Correlated postings tail later (turns ++ xs) (c.afterwards (xs.map Turn.step))
        (events ++ c.traceOf (xs.map Turn.step)) ∧
      sentTickets (sent turns) ++ c.accepted (xs.map Turn.step) = sentTickets (sent (turns ++ xs)) ∧
      ∀ o ∈ c.outcomes (xs.map Turn.step), Reports o := by
  induction xs generalizing turns c events with
  | nil =>
      have hNothing : events ++ c.traceOf [] = events := List.append_nil _
      rw [List.append_nil, List.map_nil, hNothing]
      exact ⟨h, List.append_nil _, fun o ho => absurd ho List.not_mem_nil⟩
  | cons x xs ih =>
      have hStream : pushed (x :: xs) ++ later = x.data ++ (pushed xs ++ later) := by
        simp [pushed]
      have hAll : turns ++ x :: xs = (turns ++ [x]) ++ xs := by simp
      have hCalm := aborts_of_mem_sent fun y hy => hProper y (List.mem_append_left _ hy)
      have hTrace : c.traceOf ((x :: xs).map Turn.step) =
          (c.take x.step).trace ++ (c.take x.step).connection.traceOf (xs.map Turn.step) := rfl
      have hAccepted := c.accepted_append [x.step] (xs.map Turn.step)
      have hTaken := h.accepted_step (hProper x (by simp))
      rw [hStream] at h
      rw [hTrace] at hWrites ⊢
      obtain ⟨hStep, hReports⟩ := h.step hSizes hDistinct (hInTime turns (x :: xs) rfl) hCalm
        (hProper x (by simp)) fun e he => hWrites e (List.mem_append_left _ he)
      rw [hAll] at hInTime hProper ⊢
      obtain ⟨hRun, hMore, hRest⟩ := ih hStep hInTime hProper fun e he =>
        hWrites e (List.mem_append_right _ he)
      rw [← List.append_assoc]
      refine ⟨hRun, ?_, ?_⟩
      · rw [← hMore, ← hTaken, List.append_assoc]
        exact congrArg _ hAccepted
      intro o ho
      rcases List.mem_cons.1 ho with rfl | ho
      · exact hReports
      · exact hRest o ho

/-- Steps that report what they hand out report as often as something is handed out. -/
theorem countP_dispatched {outcomes : List (Outcome Loopback Returned)}
    (h : ∀ o ∈ outcomes, Reports o) :
    outcomes.countP Outcome.dispatched = (deliveries (outcomes.flatMap (·.trace))).length := by
  induction outcomes with
  | nil => rfl
  | cons o outcomes ih =>
      have hCounted := (h o (List.mem_cons_self ..)).counted
      rw [List.flatMap_cons, deliveries_append, List.length_append, List.countP_cons, hCounted,
        ih fun o ho => h o (List.mem_cons_of_mem _ ho), Nat.add_comm]

/-- Over a loopback with pieces of any size, through every interleaving of requests, arriving bytes
and checks: when the bytes that arrive are replies to different requests, each sent before its reply
began to arrive, then the requests have the numbers in whose order they were sent, no check meets a
fault of the protocol or fails to end, as many checks report a response as callbacks are run, and
these are the callbacks that the first replies on the stream name, in their order and with their
answers. -/
theorem replies_reach_their_callbacks (readChunk : Nat) (xs : List Turn)
    (postings : List Posting) (tail : Nat) (later : Bytes) (hProper : ∀ x ∈ xs, x.Proper)
    (hStream : pushed xs ++ later = wire postings tail)
    (hSizes : ∀ p ∈ postings, p.body.length ≤ Frame.maxSize)
    (hDistinct : (postings.map Posting.number).Nodup)
    (hInTime : ∀ before after, xs = before ++ after → InTime postings before)
    (hWrites : ∀ e ∈ (withReadChunk readChunk Loopback.empty).traceOf (xs.map Turn.step),
      e.succeeds = true) :
    let outcomes := (withReadChunk readChunk Loopback.empty).outcomes (xs.map Turn.step)
    let handed := deliveries (outcomes.flatMap (·.trace))
    (withReadChunk readChunk Loopback.empty).accepted (xs.map Turn.step) = sentTickets (sent xs) ∧
      (∀ o ∈ outcomes, (∀ fault, o.ending ≠ .failed (.protocol fault)) ∧ o.ending ≠ .stalled) ∧
      outcomes.countP Outcome.dispatched = handed.length ∧
      handed.map some = (postings.take handed.length).map (·.delivery? (sent xs)) := by
  intro outcomes handed
  have hStart := Correlated.start readChunk hStream
  obtain ⟨hEnd, hTaken, hReports⟩ := hStart.run hSizes hDistinct hInTime hProper hWrites
  exact ⟨hTaken, fun o ho => ⟨(hReports o ho).faultless, (hReports o ho).ends⟩,
    countP_dispatched hReports, hEnd.handedOut⟩

/-- The replies to two requests, the second one first. -/
def crossedReplies : List Posting :=
  [⟨0, 1, [0x53, 0x79]⟩, ⟨1, 0, [0x53, 0x78]⟩]

/-- Two requests, the replies to both in one go, and three checks. The first check has read four
bytes when its time is over. -/
def crossedTurns : List Turn :=
  [.send .get "a" [] ⟨"a", false⟩, .send .get "b" [] ⟨"b", false⟩, .push (wire crossedReplies 0),
    .inPiecesOf 2, .lag [0, 4, 0, 4], .check (some ⟨7⟩), .check none, .check none]

theorem crossed_replies_reach_their_callbacks :
    let outcomes :=
      (withReadChunk 4 Loopback.empty).outcomes (crossedTurns.map Turn.step)
    outcomes.map Outcome.dispatched = [false, false, false, false, false, false, true, true] ∧
      (deliveries (outcomes.flatMap (·.trace))).map some =
        crossedReplies.map (·.delivery? (sent crossedTurns)) := by
  intro outcomes
  have hInTime : ∀ before after, crossedTurns = before ++ after →
      InTime crossedReplies before := by
    intro before after hSplit earlier p rest hPostings hArrived
    have hNumber : p.number < 2 := by
      have hMem : p ∈ crossedReplies := hPostings ▸ List.mem_append_right _ (List.mem_cons_self ..)
      rcases List.mem_cons.1 hMem with rfl | hMem
      · decide
      · obtain rfl := List.mem_singleton.1 hMem
        decide
    -- nothing has arrived before both requests were sent
    rcases before with _ | ⟨x, _ | ⟨y, before⟩⟩
    · cases hArrived
    · obtain ⟨rfl, -⟩ := List.cons.inj hSplit
      cases hArrived
    · obtain ⟨rfl, hTail⟩ := List.cons.inj hSplit
      obtain ⟨rfl, -⟩ := List.cons.inj hTail
      simp only [sent, List.filterMap_cons, Turn.callback?, List.length_cons]
      omega
  have hWrites : ((withReadChunk 4 Loopback.empty).traceOf
      (crossedTurns.map Turn.step)).all Event.succeeds = true := by decide +kernel
  obtain ⟨-, -, hCount, hHanded⟩ := replies_reach_their_callbacks 4 crossedTurns crossedReplies 0 []
    (by simp [crossedTurns, Turn.Proper]) (by simp [crossedTurns, pushed, Turn.data])
    (by decide +kernel) (by decide) hInTime (List.all_eq_true.1 hWrites)
  have hDispatched : outcomes.map Outcome.dispatched =
      [false, false, false, false, false, false, true, true] := by decide +kernel
  have hTwo : outcomes.countP Outcome.dispatched = 2 :=
    List.countP_map.symm.trans (congrArg (List.countP id) hDispatched)
  rw [← hCount, hTwo] at hHanded
  exact ⟨hDispatched, hHanded⟩

end Connection

end DocWire

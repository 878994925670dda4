import DocWire.Proofs.Connection.Calls
import DocWire.Proofs.Connection.Final
import DocWire.Proofs.Frame.Consumption

/-! What a check is told by the decoder is the answer to one question after everything that has
come, however many reads brought it. The check acts once on that answer. -/

namespace DocWire

/-- The bytes that an event brings from the transport. -/
def Event.bytes : Event → Bytes
  | .read _ _ (.ok chunk) => chunk
  | _ => []

/-- The bytes that the transport brings in these events, in order. -/
def arrived (events : List Event) : Bytes :=
  events.flatMap Event.bytes

@[simp] theorem arrived_nil : arrived [] = [] := rfl

@[simp] theorem arrived_append (first rest : List Event) :
    arrived (first ++ rest) = arrived first ++ arrived rest :=
  List.flatMap_append

@[simp] theorem arrived_cons (e : Event) (events : List Event) :
    arrived (e :: events) = e.bytes ++ arrived events :=
  List.flatMap_cons

theorem arrived_map_deliver {α : Type} (f : α → Delivery) (waiting : List α) :
    arrived (waiting.map fun w => .deliver (f w)) = [] := by
  induction waiting with
  | nil => rfl
  | cons w waiting ih => exact ih

theorem deliveries_map_deliver {α : Type} (f : α → Delivery) (waiting : List α) :
    deliveries (waiting.map fun w => .deliver (f w)) = waiting.map f := by
  induction waiting with
  | nil => rfl
  | cons w waiting ih => exact congrArg (f w :: ·) ih

/-- Whether an event is a read that meets the end of the stream. -/
def Event.meetsEnd : Event → Bool
  | .read _ _ (.error e) => e.kind = .unexpectedEof
  | _ => false

/-- These events are reads that bring bytes. -/
def Filling (events : List Event) : Prop :=
  ∀ e ∈ events, ∃ n deadline chunk, e = .read n deadline (.ok chunk)

theorem Filling.deliveries {events : List Event} (h : Filling events) :
    deliveries events = [] := by
  apply List.filterMap_eq_nil_iff.2
  intro e he
  obtain ⟨n, deadline, chunk, rfl⟩ := h e he
  rfl

/-- Behind reads, one response is handed out. -/
theorem Filling.deliveries_concat {events : List Event} (h : Filling events) (before : List Event)
    (d : Delivery) :
    DocWire.deliveries (before ++ (events ++ [.deliver d])) = DocWire.deliveries before ++ [d] := by
  rw [deliveries_append, deliveries_append, h.deliveries]
  rfl

theorem Filling.any_meetsEnd {events : List Event} (h : Filling events) :
    events.any Event.meetsEnd = false := by
  apply List.any_eq_false.2
  intro e he
  obtain ⟨n, deadline, chunk, rfl⟩ := h e he
  exact Bool.false_ne_true

theorem Filling.concat {events : List Event} (h : Filling events) (n : Nat)
    (deadline : Option Instant) (chunk : Bytes) :
    Filling (events ++ [.read n deadline (.ok chunk)]) := by
  intro e he
  rcases List.mem_append.1 he with he | he
  · exact h e he
  · exact ⟨n, deadline, chunk, List.mem_singleton.1 he⟩

namespace Connection

variable {σ : Type} {c c' : Connection σ} {events : List Event}

/-- What the decoder would hold if it had been given everything that comes in these events and had
not been asked in between. -/
def held (c : Connection σ) (events : List Event) : Frame.Decoder :=
  c.decoder.push (arrived events)

/-- The connection after its decoder was asked for a body behind these events. -/
def fed (c : Connection σ) (events : List Event) (t : σ) : Connection σ :=
  { c with decoder := (c.held events).next.2, transport := t }

/-- Reads that bring bytes lead to a connection whose decoder has been asked in vain before each of
them. -/
structure Fills (c : Connection σ) (events : List Event) (c' : Connection σ) : Prop where
  same : c' = { c with decoder := c'.decoder, transport := c'.transport }
  next : c'.decoder.next = (c.held events).next
  consumes : (c.held events).Consumes c'.decoder (.ok none)
  filling : Filling events

theorem Fills.start (c : Connection σ) : Fills c [] c := by
  refine ⟨rfl, ?_, ?_, fun e he => nomatch he⟩
  · rw [held, arrived_nil, Frame.Decoder.push_nil]
  · rw [held, arrived_nil, Frame.Decoder.push_nil]
    exact .refl c.decoder

/-- One more read, by a decoder that is asked in vain. -/
theorem Fills.read (h : Fills c events c') (hNext : c'.decoder.next.1 = .ok none) (n : Nat)
    (deadline : Option Instant) (chunk : Bytes) (t : σ) :
    Fills c (events ++ [.read n deadline (.ok chunk)])
      { c' with decoder := c'.decoder.next.2.push chunk, transport := t } := by
  have hNone : ∀ body, c'.decoder.next.1 ≠ .ok (some body) := by simp [hNext]
  have hHeld : c.held (events ++ [.read n deadline (.ok chunk)]) = (c.held events).push chunk := by
    simp [held, Event.bytes, Frame.Decoder.push_append]
  refine ⟨?_, ?_, ?_, h.filling.concat n deadline chunk⟩
  · rw [h.same]
  · show (c'.decoder.next.2.push chunk).next = _
    rw [hHeld, h.next]
    exact Frame.Decoder.next_push_of_no_body (h.next ▸ hNone) chunk
  · have hAsked := Frame.Decoder.consumes_next c'.decoder
    rw [hNext] at hAsked
    rw [hHeld]
    exact (h.consumes.trans hAsked).push chunk

theorem Fills.fed (h : Fills c events c') (t : σ) :
    { c' with decoder := c'.decoder.next.2, transport := t } = c.fed events t := by
  rw [h.same, Connection.fed, ← h.next]

/-- How a poll ends while nobody aborts who waits: where the decoder waits, with the deadline or a
read that fails, and else with the decoder's answer. -/
inductive Ended (deadline : Option Instant) (c : Connection σ) : Outcome σ Bool → Prop where
  /-- There was no round left to ask the decoder again. -/
  | stalled (c' : Connection σ) (events : List Event) (hFills : Fills c events c') :
      Ended deadline c ⟨.stalled, c', events⟩
  | fault (t : σ) (events : List Event) (f : Frame.Fault) (hFilling : Filling events)
      (hNext : (c.held events).next.1 = .error f) :
      Ended deadline c ⟨.failed (.protocol (.frame f)), c.fed events t, events⟩
  /-- The body is for nobody who waits. -/
  | astray (t : σ) (events : List Event) (body : Bytes) (fault : ProtocolFault)
      (hFilling : Filling events) (hNext : (c.held events).next.1 = .ok (some body))
      (hNobody : ∀ reply, Reply.decode? body = some reply → c.pending.lookup reply.id = none) :
      Ended deadline c ⟨.failed (.protocol fault), c.fed events t, events⟩
  | dispatched (t : σ) (events : List Event) (body : Bytes) (reply : Reply) (r : Recipient)
      (hFilling : Filling events) (hNext : (c.held events).next.1 = .ok (some body))
      (hReply : Reply.decode? body = some reply) (hWaits : c.pending.lookup reply.id = some r) :
      Ended deadline c ⟨.returned true, { c.fed events t with pending := c.pending.erase reply.id },
        events ++ [.deliver ⟨some reply.id, r, reply.response⟩]⟩
  | late (t : σ) (events : List Event) (hFilling : Filling events)
      (hNext : (c.held events).next.1 = .ok none) (hDeadline : deadline ≠ none) :
      Ended deadline c ⟨.returned false, c.fed events t, events⟩
  | failed (t : σ) (events : List Event) (n : Nat) (e : IoError) (hFilling : Filling events)
      (hNext : (c.held events).next.1 = .ok none) (hKind : e.kind ≠ .unexpectedEof) :
      Ended deadline c
        ⟨.failed (.io e), c.fed events t, events ++ [.read n deadline (.error e)]⟩
  | lost (t : σ) (events : List Event) (n : Nat) (e : IoError) (answer : Except IoError Unit)
      (hFilling : Filling events) (hNext : (c.held events).next.1 = .ok none)
      (hKind : e.kind = .unexpectedEof) :
      Ended deadline c ⟨.failed .connectionLost,
        { c.fed events t with pending := [], closed := true },
        events ++ .read n deadline (.error e) :: .close answer ::
          c.pending.inOrder.map fun w => .deliver ⟨some w.1, w.2, .connectionClosed⟩⟩

theorem finish_after (c : Connection σ) {α : Type} (ending : Ending α) (events : List Event) :
    (c.finish ending).after events = ⟨ending, c, events⟩ := by
  simp [Outcome.after, finish]

/-- A body is dispatched to nobody, or to the one who waits and does not abort. -/
theorem dispatch_ended {deadline : Option Instant} {body : Bytes} (t : σ)
    (hFilling : Filling events) (hNext : (c.held events).next.1 = .ok (some body))
    (hGentle : c.Gentle) : Ended deadline c (((c.fed events t).dispatch body).after events) := by
  unfold dispatch
  split
  next hReply =>
    rw [finish_after]
    exact .astray t events body .noId hFilling hNext (by simp [hReply])
  next reply hReply =>
    split
    next hNobody =>
      rw [finish_after]
      apply Ended.astray t events body (.unknownId reply.id) hFilling hNext
      intro reply' hReply'
      cases hReply.symm.trans hReply'
      exact hNobody
    next r hWaits =>
      have hCalm : r.aborts = false := hGentle _ (Pending.mem_of_lookup hWaits)
      simp only [Recipient.allow, hCalm, Bool.false_eq_true, if_false]
      exact .dispatched t events body reply r hFilling hNext hReply hWaits

/-- Nobody is answered, and the table, the counter and the state of closing are as before. -/
structure Untouched (c : Connection σ) (o : Outcome σ Bool) : Prop where
  quiet : deliveries o.trace = []
  pending : o.connection.pending = c.pending
  nextId : o.connection.nextId = c.nextId
  closed : o.connection.closed = c.closed

theorem held_append (c : Connection σ) {first rest : List Event} (h : arrived rest = []) :
    c.held (first ++ rest) = c.held first := by
  rw [held, held, arrived_append, h, List.append_nil]

variable {deadline : Option Instant} {o : Outcome σ Bool}

/-- Behind a read that failed nothing comes any more. -/
theorem held_of_lost (c : Connection σ) (events : List Event) (n : Nat) (e : IoError)
    (answer : Except IoError Unit) (p : Pending) :
    c.held (events ++ .read n deadline (.error e) :: .close answer ::
      p.map fun w => .deliver ⟨some w.1, w.2, .connectionClosed⟩) = c.held events := by
  apply held_append
  rw [arrived_cons, arrived_cons, arrived_map_deliver]
  rfl

/-- What was held and has come is what was consumed, one frame at most, and what is held. -/
theorem Ended.consumes (h : Ended deadline c o) :
    ∃ answer, (c.held o.trace).Consumes o.connection.decoder answer := by
  cases h with
  | stalled c' events hFills => exact ⟨_, hFills.consumes⟩
  | fault t events => exact ⟨_, Frame.Decoder.consumes_next _⟩
  | astray t events => exact ⟨_, Frame.Decoder.consumes_next _⟩
  | dispatched t events =>
      rw [held_append c rfl]
      exact ⟨_, Frame.Decoder.consumes_next _⟩
  | late t events => exact ⟨_, Frame.Decoder.consumes_next _⟩
  | failed t events =>
      rw [held_append c rfl]
      exact ⟨_, Frame.Decoder.consumes_next _⟩
  | lost t events n e answer =>
      rw [held_of_lost]
      exact ⟨_, Frame.Decoder.consumes_next _⟩

/-- Only where a response was handed out or the end of the stream was met has anything changed but
what was consumed. -/
theorem Ended.untouched (h : Ended deadline c o) (hReturned : o.ending ≠ .returned true)
    (hLost : o.ending ≠ .failed .connectionLost) : Untouched c o := by
  cases h with
  | stalled c' events hFills =>
      have hSame := hFills.same
      refine ⟨hFills.filling.deliveries, ?_, ?_, ?_⟩ <;> rw [hSame]
  | fault t events f hFilling hNext => exact ⟨hFilling.deliveries, rfl, rfl, rfl⟩
  | astray t events body fault hFilling => exact ⟨hFilling.deliveries, rfl, rfl, rfl⟩
  | dispatched => exact absurd rfl hReturned
  | late t events hFilling => exact ⟨hFilling.deliveries, rfl, rfl, rfl⟩
  | failed t events n e hFilling =>
      exact ⟨deliveries_eq_nil_append hFilling.deliveries rfl, rfl, rfl, rfl⟩
  | lost => exact absurd rfl hLost

theorem Ended.of_returned_true (h : Ended deadline c o) (hOrderly : c.Orderly)
    (hReturned : o.ending = .returned true) :
    (∃ id r response, deliveries o.trace = [⟨some id, r, response⟩] ∧
      c.pending.Perm ((id, r) :: o.connection.pending)) ∧
    ∃ body, (c.held o.trace).Consumes o.connection.decoder (.ok (some body)) := by
  cases h with
  | dispatched t events body reply r hFilling hNext hReply hWaits =>
      refine ⟨⟨reply.id, r, reply.response, ?_, ?_⟩, body, ?_⟩
      · rw [deliveries_append, hFilling.deliveries]
        rfl
      · exact Pending.perm_cons_erase hOrderly.distinct hWaits
      · have hConsumes := Frame.Decoder.consumes_next (c.held events)
        rw [hNext] at hConsumes
        rw [held_append c rfl]
        exact hConsumes
  | _ => cases hReturned

/-- The end of the stream is met after spaces and a count at most. -/
theorem Ended.not_consumes_of_lost (h : Ended deadline c o)
    (hLost : o.ending = .failed .connectionLost) (body : Bytes) :
    ¬ (c.held o.trace).Consumes o.connection.decoder (.ok (some body)) := by
  cases h with
  | lost t events n e answer hFilling hNext hKind =>
      have hConsumes := Frame.Decoder.consumes_next (c.held events)
      rw [hNext] at hConsumes
      rw [held_of_lost]
      exact hConsumes.not_body (by simp)
  | _ => cases hLost

/-- One response and one frame mean that the poll has dispatched. -/
theorem Ended.returned_true_iff (h : Ended deadline c o) (hOrderly : c.Orderly) :
    o.ending = .returned true ↔
      (∃ id r response, deliveries o.trace = [⟨some id, r, response⟩] ∧
        c.pending.Perm ((id, r) :: o.connection.pending)) ∧
      ∃ body, (c.held o.trace).Consumes o.connection.decoder (.ok (some body)) := by
  constructor
  · exact h.of_returned_true hOrderly
  · rintro ⟨⟨id, r, response, hOne, -⟩, body, hFrame⟩
    by_contra hReturned
    by_cases hLost : o.ending = .failed .connectionLost
    · exact h.not_consumes_of_lost hLost body hFrame
    · rw [(h.untouched hReturned hLost).quiet] at hOne
      cases hOne

theorem Ended.deadline_of_returned_false (h : Ended deadline c o)
    (hReturned : o.ending = .returned false) : deadline ≠ none := by
  cases h with
  | late t events hFilling hNext hDeadline => exact hDeadline
  | _ => cases hReturned

theorem Ended.connectionLost_iff (h : Ended deadline c o) :
    o.ending = .failed .connectionLost ↔ o.trace.any Event.meetsEnd = true := by
  cases h with
  | lost t events n e answer hFilling hNext hKind => simp [Event.meetsEnd, hKind]
  | stalled c' events hFills => simp [hFills.filling.any_meetsEnd]
  | fault t events f hFilling => simp [hFilling.any_meetsEnd]
  | astray t events body fault hFilling => simp [hFilling.any_meetsEnd]
  | dispatched t events body reply r hFilling =>
      simp only [List.any_append, hFilling.any_meetsEnd]
      simp [Event.meetsEnd]
  | late t events hFilling => simp [hFilling.any_meetsEnd]
  | failed t events n e hFilling hNext hKind =>
      simp only [List.any_append, hFilling.any_meetsEnd]
      simp [Event.meetsEnd, hKind]

theorem Ended.of_connectionLost (h : Ended deadline c o)
    (hLost : o.ending = .failed .connectionLost) :
    o.connection.closed = true ∧ o.connection.pending = [] ∧
      deliveries o.trace = c.pending.inOrder.map fun w => ⟨some w.1, w.2, .connectionClosed⟩ := by
  cases h with
  | lost t events n e answer hFilling hNext hKind =>
      refine ⟨rfl, rfl, ?_⟩
      rw [deliveries_append, hFilling.deliveries]
      exact deliveries_map_deliver _ c.pending.inOrder
  | _ => cases hLost

variable [Transport σ]

theorem closeFor_eq (c : Connection σ) {α : Type} (e : Error) (hOpen : c.closed = false)
    (hGentle : c.Gentle) :
    (c.closeFor e : Outcome σ α) = ⟨.failed e,
      { c with transport := (Transport.close c.transport).2, pending := [], closed := true },
      .close (Transport.close c.transport).1 ::
        c.pending.inOrder.map fun w => .deliver ⟨some w.1, w.2, .connectionClosed⟩⟩ := by
  obtain ⟨hGoesOn, hTrace⟩ := close_of_gentle hOpen hGentle
  have hAfter : c.close.connection =
      { c with transport := (Transport.close c.transport).2, pending := [], closed := true } := by
    simp only [close, hOpen, Bool.false_eq_true, if_false]
  unfold closeFor
  dsimp only
  split
  next hAborted => exact absurd hAborted hGoesOn
  · rw [← hAfter, ← hTrace]
    rfl

/-- A poll that goes on behind reads which brought bytes ends in one of these ways. -/
theorem Polling.ended {rounds : Nat} {polled : Bool}
    (h : Polling deadline rounds polled c' o) (hFills : Fills c events c')
    (hOpen : c.closed = false)
    (hGentle : c.Gentle) : Ended deadline c (o.after events) := by
  induction h generalizing events with
  | stalled polled c' =>
      rw [finish_after]
      exact .stalled c' events hFills
  | fault rounds polled c' f hNext =>
      rw [hFills.next] at hNext
      rw [finish_after, hFills.fed c'.transport]
      exact .fault _ events f hFills.filling hNext
  | body rounds polled c' body hNext =>
      rw [hFills.next] at hNext
      rw [hFills.fed c'.transport]
      exact dispatch_ended _ hFills.filling hNext hGentle
  | late rounds polled c' t hNext hLooks =>
      rw [hFills.next] at hNext
      rw [finish_after, hFills.fed t]
      refine .late t events hFills.filling hNext ?_
      rintro rfl
      rw [ite_self] at hLooks
      cases hLooks
  | failed rounds polled c' t t' e hNext hLooks hRead =>
      rw [hFills.next] at hNext
      rw [hFills.fed t', Outcome.after_after]
      unfold giveUpRead
      split
      next hKind =>
        rw [closeFor_eq]
        · have hEnd : Ended deadline c _ := .lost
            (Transport.close (c.fed events t').transport).2 events c'.readChunk e
            (Transport.close (c.fed events t').transport).1 hFills.filling hNext hKind
          simpa [Outcome.after, fed] using hEnd
        · exact hOpen
        · exact hGentle
      next hKind =>
        rw [finish_after]
        exact .failed t' events _ e hFills.filling hNext hKind
  | more rounds polled c' t t' chunk o hNext hLooks hRead rest ih =>
      rw [Outcome.after_after]
      exact ih (hFills.read hNext _ _ _ t')

/-- How a poll of an open connection ends. -/
theorem poll_ended (hOpen : c.closed = false) (hGentle : c.Gentle) (deadline : Option Instant) :
    Ended deadline c (c.poll deadline) :=
  (poll_polling hOpen deadline).ended (.start c) hOpen hGentle

/-- On an open connection, reached in any way without aborting callbacks, over any transport and
with any limit, the ending of a check tells what has happened. -/
theorem check_tells_what_happened (transport : σ) (readChunk : Nat) (steps : List (Step σ))
    (hReached : (withReadChunk readChunk transport).afterwards steps = c)
    (hCalm : ∀ step ∈ steps, step.Calm) (hOpen : c.closed = false) (limit : Option Duration) :
    let o := c.check limit
    (o.ending = .returned true ↔
      (∃ id r response, deliveries o.trace = [⟨some id, r, response⟩] ∧
        c.pending.Perm ((id, r) :: o.connection.pending)) ∧
      ∃ body, (c.held o.trace).Consumes o.connection.decoder (.ok (some body))) ∧
    (o.ending ≠ .returned true → o.ending ≠ .failed .connectionLost → Untouched c o) ∧
    (o.ending = .returned false → limit ≠ none) ∧
    (o.ending = .failed .connectionLost ↔ o.trace.any Event.meetsEnd = true) ∧
    (o.ending = .failed .connectionLost → o.connection.closed = true ∧ o.connection.pending = [] ∧
      deliveries o.trace = c.pending.inOrder.map fun w =>
        ⟨some w.1, w.2, .failure ⟨.connectionClosed, "Connection closed"⟩⟩) ∧
    ∃ answer, (c.held o.trace).Consumes o.connection.decoder answer := by
  intro o
  have hAccounts := (withReadChunk_accounts readChunk transport).history hCalm
  rw [hReached] at hAccounts
  have hLooked : c.now.2.closed = false := hOpen
  have hOrderly : c.now.2.Orderly := hAccounts.orderly.of_eq rfl rfl rfl
  have hEnded : Ended _ c.now.2 o := poll_ended hLooked hAccounts.gentle _
  refine ⟨hEnded.returned_true_iff hOrderly, ?_, ?_, hEnded.connectionLost_iff, ?_,
    hEnded.consumes⟩
  · intro hReturned hLost
    have hUntouched := hEnded.untouched hReturned hLost
    exact ⟨hUntouched.quiet, hUntouched.pending, hUntouched.nextId, hUntouched.closed⟩
  · rintro hReturned rfl
    exact hEnded.deadline_of_returned_false hReturned rfl
  · rw [← Response.connectionClosed_eq]
    exact hEnded.of_connectionLost

/-- A reply in two pieces with the beginning of another behind it, and then the end of the
stream. -/
def replyThenEnd : Script :=
  { reads := [.ok (Utf8.encode " 5 1 S"), .ok (Utf8.encode "ab6 0"),
      .error ⟨.unexpectedEof, "end of stream"⟩] }

/-- The first check hands out the reply, though another request was sent earlier. The second one
meets the end of the stream with a part of a frame, and the other request fails. -/
theorem check_tells_what_happened_replyThenEnd :
    let steps := pairOfSends ⟨"a", false⟩
    let c := (withReadChunk 8 replyThenEnd).afterwards steps
    let later := (c.check none).connection
    ((c.check none).ending = .returned true ∧
      ∃ body, (c.held (c.check none).trace).Consumes later.decoder (.ok (some body))) ∧
    later.decoder = ⟨Utf8.encode "6 0", none⟩ ∧
      (later.check none).ending = .failed .connectionLost ∧
      deliveries (later.check none).trace =
        [⟨some "0", .callback ⟨"a", false⟩,
          .failure ⟨.connectionClosed, "Connection closed"⟩⟩] := by
  intro steps c later
  have hCalm : ∀ step ∈ steps, step.Calm := by simp [steps, pairOfSends, Step.Calm]
  have hCalm' : ∀ step ∈ steps ++ [.call (.check none)], step.Calm := by
    simp [steps, pairOfSends, Step.Calm]
  have hLater : (withReadChunk 8 replyThenEnd).afterwards (steps ++ [.call (.check none)]) =
      later := by
    rw [afterwards_append]
    rfl
  have hOpen : later.closed = false := by decide +kernel
  have hPending : later.pending = [("0", .callback ⟨"a", false⟩)] := by decide +kernel
  have hMet : (later.check none).trace.any Event.meetsEnd = true := by decide +kernel
  have hReturned : (c.check none).ending = .returned true :=
    Ending.returned?_eq_some_iff.1 (by decide +kernel)
  obtain ⟨hTrue, -⟩ := check_tells_what_happened replyThenEnd 8 steps rfl hCalm (by rfl) none
  obtain ⟨-, -, -, hLost, hAnswered, -⟩ :=
    check_tells_what_happened replyThenEnd 8 _ hLater hCalm' hOpen none
  have hEnd := hLost.2 hMet
  have hDeliveries := (hAnswered hEnd).2.2
  rw [hPending] at hDeliveries
  exact ⟨⟨hReturned, (hTrue.1 hReturned).2⟩, by decide +kernel, hEnd,
    hDeliveries.trans (by simp [Pending.inOrder])⟩

end Connection

end DocWire

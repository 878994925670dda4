import DocWire.Proofs.Connection.Calls
import DocWire.Proofs.Connection.HangUp
import DocWire.Proofs.Connection.Listening

/-! A wait whose deadline has come when it begins makes one poll, and that reads once. A response
behind another one, or a longer one than that read brings, is given up though all of it has arrived.
-/

namespace DocWire.Connection

variable {c : Connection Loopback} {deadline : Option Instant} {m : Spaced} {more : Bytes}
  {first : Due}

/-- Whether the message at the front of the stream is there after one read at most. -/
def Near (c : Connection Loopback) (m : Spaced) : Prop :=
  m.bytes.length ≤ c.decoder.unread.length + c.transport.batch c.readChunk

instance (c : Connection Loopback) (m : Spaced) : Decidable (c.Near m) :=
  inferInstanceAs (Decidable (m.bytes.length ≤ _))

/-- A deadline that has come does not go away until the clock is looked at. -/
theorem Looks.of_passed {l : Loopback} (hPassed : Instant.passed deadline l.clock = true) :
    Looks deadline l true l.pass := by
  cases deadline with
  | none => cases hPassed
  | some d => exact Instant.passed_of_le l.le_pass_clock hPassed ▸ .clock d l

/-- A poll that has read before makes no other read when the deadline has come. -/
theorem pollWithin_of_passed (hPassed : Instant.passed deadline c.transport.clock = true)
    {near : Prop} [Decidable near] {body : Bytes}
    (hNext : c.decoder.next.1 = if near then .ok (some body) else .ok none) (rounds : Nat) :
    let asked := { c with decoder := c.decoder.next.2 }
    pollWithin deadline (rounds + 1) true c =
      if near then asked.dispatch body
      else finish { asked with transport := c.transport.pass } (.returned false) := by
  intro asked
  by_cases hNear : near
  · rw [if_pos hNear] at hNext ⊢
    rw [pollWithin_succ, hNext]
  · have hLooks : Looks (if true then deadline else none) c.transport true c.transport.pass :=
      .of_passed hPassed
    rw [if_neg hNear] at hNext ⊢
    exact pollWithin_of_looks rounds hNext hLooks

theorem poll_loopback (hOpen : c.closed = false) (deadline : Option Instant) :
    c.poll deadline = pollWithin deadline (c.transport.inbound.length + 1 + 1) false c :=
  poll_of_open hOpen deadline

/-- A first round of polling reads when no body is held and bytes wait. -/
theorem poll_of_waiting (hOpen : c.closed = false) (hNext : c.decoder.next.1 = .ok none)
    (hWaiting : c.transport.inbound ≠ []) (deadline : Option Instant) :
    let chunk := c.transport.inbound.take (c.transport.batch c.readChunk)
    let read := { c with
      decoder := c.decoder.next.2.push chunk
      transport := (Transport.read c.readChunk deadline c.transport).2 }
    c.poll deadline =
      (pollWithin deadline (c.transport.inbound.length + 1) true read).after
        [.read c.readChunk deadline (.ok chunk)] := by
  intro chunk read
  have hAnswer : (Transport.read c.readChunk deadline c.transport).1 = .ok chunk :=
    congrArg Prod.fst (Loopback.read_of_inbound hWaiting c.readChunk deadline)
  rw [poll_loopback hOpen, pollWithin_of_looks _ hNext (.first _ c.transport),
    if_neg Bool.false_ne_true]
  dsimp only
  rw [hAnswer]

/-- After one read a decoder that waited hands out the message at the front of the stream if that is
near. The second question is answered as if the chunk had been there from the start. -/
theorem next_after_read (hNext : c.decoder.next.1 = .ok none)
    (hStream : c.decoder.unread ++ c.transport.inbound = m.bytes ++ more)
    (hSize : m.message.body.length ≤ Frame.maxSize) :
    (c.decoder.next.2.push (c.transport.inbound.take (c.transport.batch c.readChunk))).next.1 =
      if c.Near m then .ok (some m.message.body) else .ok none := by
  have hSplit := List.take_append_drop (c.transport.batch c.readChunk) c.transport.inbound
  have hTaken : (c.transport.inbound.take (c.transport.batch c.readChunk)).length =
      min (c.transport.batch c.readChunk) c.transport.inbound.length := List.length_take
  generalize c.transport.inbound.take (c.transport.batch c.readChunk) = chunk at hSplit hTaken ⊢
  have hPushed : (c.decoder.push chunk).unread ++
      c.transport.inbound.drop (c.transport.batch c.readChunk) = m.bytes ++ more := by
    rw [Frame.Decoder.unread_push, List.append_assoc, hSplit, hStream]
  rw [Frame.Decoder.next_push_of_no_body (by simp [hNext]) chunk,
    Frame.Decoder.next_of_front hPushed hSize, Frame.Decoder.unread_push, List.length_append]
  apply if_congr _ rfl rfl
  have hLength := congrArg List.length hStream
  rw [List.length_append, List.length_append] at hLength
  rw [Near]
  omega

/-- When the deadline has come, a poll takes the message at the front of the stream if that is near,
and else comes back without one. -/
theorem poll_of_passed (hOpen : c.closed = false)
    (hPassed : Instant.passed deadline c.transport.clock = true)
    (hStream : c.decoder.unread ++ c.transport.inbound = m.bytes ++ more)
    (hSize : m.message.body.length ≤ Frame.maxSize) :
    ∃ (d : Frame.Decoder) (t : Loopback) (events : List Event),
      Instant.passed deadline t.clock = true ∧ deliveries events = [] ∧
        let read := { c with decoder := d, transport := t }
        c.poll deadline = Outcome.after
          (if c.Near m then read.dispatch m.message.body else read.finish (.returned false))
          events := by
  have hNow := Frame.Decoder.next_of_front hStream hSize
  by_cases hHeld : m.bytes.length ≤ c.decoder.unread.length
  · rw [if_pos hHeld] at hNow
    have hNear : c.Near m := Nat.le_add_right_of_le hHeld
    refine ⟨c.decoder.next.2, c.transport, [], hPassed, rfl, ?_⟩
    rw [poll_loopback hOpen, pollWithin_succ, hNow]
    dsimp only
    rw [if_pos hNear]
    rfl
  · rw [if_neg hHeld] at hNow
    have hWaiting : c.transport.inbound ≠ [] := by
      intro hNil
      rw [hNil, List.append_nil] at hStream
      rw [hStream, List.length_append] at hHeld
      omega
    have hClock : (Transport.read c.readChunk deadline c.transport).2.clock =
        c.transport.pass.clock :=
      congrArg (fun r => r.2.clock) (Loopback.read_of_inbound hWaiting c.readChunk deadline)
    have hPoll := poll_of_waiting hOpen hNow hWaiting deadline
    have hAgain := next_after_read hNow hStream hSize
    generalize Transport.read c.readChunk deadline c.transport = answered at hClock hPoll
    have hPassed' : Instant.passed deadline answered.2.clock = true := by
      rw [hClock]
      exact Instant.passed_of_le c.transport.le_pass_clock hPassed
    have hLate := pollWithin_of_passed
      (c := { c with
        decoder := c.decoder.next.2.push (c.transport.inbound.take (c.transport.batch c.readChunk))
        transport := answered.2 })
      hPassed' hAgain c.transport.inbound.length
    rw [hPoll, hLate]
    by_cases hNear : c.Near m
    · rw [if_pos hNear]
      refine ⟨_, _, _, hPassed', ?_, congrArg (Outcome.after · _) (if_pos hNear).symm⟩
      rfl
    · have hPassed'' := Instant.passed_of_le answered.2.le_pass_clock hPassed'
      rw [if_neg hNear]
      refine ⟨_, _, _, hPassed'', ?_, congrArg (Outcome.after · _) (if_neg hNear).symm⟩
      rfl

/-- A wait that has polled before gives up when its deadline has come. -/
theorem await_of_passed {limit : Limit}
    (hPassed : Instant.passed (some limit.deadline) c.transport.clock = true) (id : String)
    (rounds : Nat) :
    (await id (some limit) (rounds + 1) true c).ending = .failed (.timeout limit.span) := by
  have hLooks : Looks (if true then (some limit).map Limit.deadline else none) c.transport true
      c.transport.pass := .of_passed hPassed
  rw [await_of_late rounds rfl hLooks]
  rfl

/-- A wait whose deadline has come is answered by what its first poll hands out, or by nothing. -/
theorem await_of_poll {limit : Limit} {o : Outcome Loopback Bool} {b : Bool}
    (hPoll : c.poll (some limit.deadline) = o) (hEnding : o.ending = .returned b)
    (hPassed : Instant.passed (some limit.deadline) o.connection.transport.clock = true)
    (id : String) (rounds : Nat) :
    (await id (some limit) (rounds + 1 + 1) false c).ending =
      match o.trace.findSome? (responseFor? id) with
      | some response => .returned response
      | none => .failed (.timeout limit.span) := by
  have hPoll' : c.poll ((some limit).map Limit.deadline) = o := hPoll
  rw [await_of_returned _ (.first _ c.transport) hPoll' hEnding]
  cases o.trace.findSome? (responseFor? id) with
  | some response => rfl
  | none => exact await_of_passed hPassed id rounds

/-- The wait for a response whose deadline has come when it begins. At the front of the stream is a
reply that is due: only if that is the response and is near, the wait is answered. -/
theorem await_at_once {limit : Limit} (hOpen : c.closed = false) (hOrderly : c.Orderly)
    (hGentle : c.Gentle) (hWaits : (first.id, first.recipient) ∈ c.pending)
    (hPassed : Instant.passed (some limit.deadline) c.transport.clock = true)
    (hStream : c.decoder.unread ++ c.transport.inbound = first.message.bytes ++ more)
    (hSize : first.message.message.body.length ≤ Frame.maxSize) (id : String) (rounds : Nat) :
    (await id (some limit) (rounds + 1 + 1) false c).ending =
      if (first.id = id ∧ first.recipient = .caller) ∧ c.Near first.message then
        .returned (Reply.readAnswer first.answer)
      else .failed (.timeout limit.span) := by
  obtain ⟨d, t, events, hLate, hQuiet, hPoll⟩ := poll_of_passed hOpen hPassed hStream hSize
  dsimp only at hPoll
  generalize hRead : ({ c with decoder := d, transport := t } : Connection Loopback) = read at hPoll
  have hTransport : read.transport = t := by rw [← hRead]
  have hPending : read.pending = c.pending := by rw [← hRead]
  by_cases hNear : c.Near first.message
  · have hOrderly' : read.Orderly := by
      rw [← hRead]
      exact hOrderly.of_eq rfl rfl rfl
    have hDispatch := dispatch_due hOrderly' (hGentle.of_eq hPending) (hPending ▸ hWaits)
    rw [if_pos hNear, hDispatch] at hPoll
    rw [await_of_poll hPoll rfl (hTransport ▸ hLate)]
    show (match (events ++ [Event.deliver first.delivery]).findSome? (responseFor? id) with
      | some response => _
      | none => _) = _
    rw [findSome?_responseFor?_concat hQuiet, Due.delivery, responseFor?_deliver]
    by_cases hOwn : first.id = id ∧ first.recipient = .caller
    · rw [if_pos hOwn, if_pos ⟨hOwn, hNear⟩]
    · rw [if_neg hOwn, if_neg fun h => hOwn h.1]
  · rw [if_neg hNear] at hPoll
    rw [await_of_poll hPoll rfl (hTransport ▸ hLate), if_neg fun h => hNear h.2]
    show (match (events ++ []).findSome? (responseFor? id) with
      | some response => _
      | none => _) = _
    rw [List.append_nil, findSome?_responseFor? hQuiet]

section Sent

variable {method : Method} {target : String} {payload : Bytes}

/-- A request that has been written waits besides the others, and no time has passed. -/
theorem sendTo_of_written (hOpen : c.closed = false) (hOrderly : c.Orderly)
    (hWritten : (c.sendTo method target payload .caller).ending = .returned ()) :
    let sent := (c.sendTo method target payload .caller).connection
    sent.closed = false ∧ sent.pending = (Decimal.text c.nextId, .caller) :: c.pending ∧
      sent.transport.clock = c.transport.clock := by
  intro sent
  obtain ⟨data, answer, hSent⟩ := sendTo_of_returned hOpen method target payload .caller hWritten
  have hAfter : sent = _ := congrArg Outcome.connection hSent
  rw [hAfter]
  exact ⟨hOpen, Pending.insert_of_notMem hOrderly.fresh .caller, c.transport.write_clock data⟩

/-- A wait without time goes on, once its request has been written, with a deadline that has
come. -/
theorem sendWait_of_written (hOpen : c.closed = false)
    (hClock : c.now.1.nanos < Instant.clockRange)
    (hWritten : (c.now.2.sendTo method target payload .caller).ending = .returned ()) :
    ∃ rounds, (c.sendWait method target payload (some ⟨0⟩)).ending =
      (await (Decimal.text c.nextId) (some ⟨⟨0⟩, c.now.1⟩) (rounds + 1 + 1) false
        (c.now.2.sendTo method target payload .caller).connection).ending := by
  have hLimit : Limit.from? c.now.1 (some ⟨0⟩) = some ⟨⟨0⟩, c.now.1⟩ := by
    simp [Limit.from?, Instant.after?, hClock]
  have hWait : c.sendWait method target payload (some ⟨0⟩) =
      (await (Decimal.text c.nextId) (Limit.from? c.now.1 (some ⟨0⟩))
        (c.now.2.sendTo method target payload .caller).connection.awaitRounds false
        (c.now.2.sendTo method target payload .caller).connection).after
        (c.now.2.sendTo method target payload .caller).trace := by
    rw [sendWait_eq]
    exact (Outcome.followedBy_of_returned hWritten).trans (if_neg (by simp [hOpen]))
  rw [hWait, hLimit]
  exact ⟨_, rfl⟩

end Sent

/-- What a wait without time comes to on an open connection over a loopback, reached in any way
without aborting callbacks. The request has been written, and what the decoder holds and what waits
in the transport begin with replies to other requests that wait and then the response. The wait is
answered by it exactly if no other reply comes first and what is held and one read are long enough;
else it is given up, though the response is there. -/
theorem answered_at_once_iff_first_and_near (transport : Loopback) (readChunk : Nat)
    (steps : List (Step Loopback))
    (hReached : (withReadChunk readChunk transport).afterwards steps = c)
    (hCalm : ∀ step ∈ steps, step.Calm) (hOpen : c.closed = false)
    (hClock : c.now.1.nanos < Instant.clockRange) (method : Method) (target : String)
    (payload : Bytes)
    (hWritten : (c.now.2.sendTo method target payload .caller).ending = .returned ())
    (others : List Due) (own : Due) (hOwn : own.id = Decimal.text c.nextId)
    (hCaller : own.recipient = .caller) (more : Bytes)
    (hStream :
      let sent := (c.now.2.sendTo method target payload .caller).connection
      sent.decoder.unread ++ sent.transport.inbound =
        stream ((others ++ [own]).map Due.message) ++ more)
    (hSizes : ∀ d ∈ others ++ [own], d.message.message.body.length ≤ Frame.maxSize)
    (hWaits : ∀ d ∈ others, (d.id, d.recipient) ∈ c.pending) :
    (c.sendWait method target payload (some ⟨0⟩)).ending =
      if others = [] ∧
          (c.now.2.sendTo method target payload .caller).connection.Near own.message then
        .returned (Reply.readAnswer own.answer)
      else .failed (.timeout ⟨0⟩) := by
  have hAccounts := (withReadChunk_accounts readChunk transport).history hCalm
  rw [hReached] at hAccounts
  have hTarget : target.toList.contains ' ' = false := by
    by_contra hSpace
    rw [sendTo, if_pos (by simpa using hSpace)] at hWritten
    cases hWritten
  have hOrderlyNow : c.now.2.Orderly := hAccounts.orderly.of_eq rfl rfl rfl
  have hGentleNow : c.now.2.Gentle := hAccounts.gentle.of_eq rfl
  have hCourse := (c.now.2.sendTo_follows method payload .caller hTarget).course
  have hOrderly := hCourse.orderly hOrderlyNow
  have hGentle := (hCourse.gentle hGentleNow (by simp [ticketFor, Recipient.aborts])).2
  obtain ⟨hStillOpen, hPending, hSameClock⟩ :=
    sendTo_of_written (c := c.now.2) hOpen hOrderlyNow hWritten
  obtain ⟨rounds, hWait⟩ := sendWait_of_written hOpen hClock hWritten
  rw [hWait]
  generalize (c.now.2.sendTo method target payload .caller).connection = sent at *
  have hPassed : Instant.passed (some c.now.1) sent.transport.clock = true := by
    rw [hSameClock]
    exact decide_eq_true (Nat.le_refl _)
  cases others with
  | nil =>
      have hFirst : (own.id, own.recipient) ∈ sent.pending := by
        rw [hPending, hOwn, hCaller]
        exact List.mem_cons_self ..
      have hFront : sent.decoder.unread ++ sent.transport.inbound = own.message.bytes ++ more := by
        rw [hStream]
        simp [stream]
      rw [await_at_once hStillOpen hOrderly hGentle hFirst hPassed hFront (hSizes own (.head _))]
      exact if_congr (by simp [hOwn, hCaller]) rfl rfl
  | cons d others =>
      have hDue := hWaits d (.head _)
      have hFirst : (d.id, d.recipient) ∈ sent.pending := by
        rw [hPending]
        exact List.mem_cons_of_mem _ hDue
      have hFront : sent.decoder.unread ++ sent.transport.inbound = d.message.bytes ++
          (stream ((others ++ [own]).map Due.message) ++ more) := by
        rw [hStream, List.cons_append, List.map_cons, stream_cons, List.append_assoc]
      have hOther : d.id ≠ Decimal.text c.nextId := by
        intro hSame
        exact hAccounts.orderly.fresh (hSame ▸ Pending.mem_ids hDue)
      rw [await_at_once hStillOpen hOrderly hGentle hFirst hPassed hFront (hSizes d (.head _)),
        if_neg fun h => hOther h.1.1, if_neg fun h => List.cons_ne_nil d others h.1]

/-- The server answers the next request at once. -/
def promptServer : List (Step Loopback) :=
  [.meanwhile (·.withAnswers [.tagged "S0.1"])]

/-- The response comes first and is shorter than a read. -/
theorem answered_at_once_iff_first_and_near_promptServer :
    let c := (ofTransport Loopback.empty).afterwards promptServer
    (c.sendWait .get "about" [] (some ⟨0⟩)).ending = .returned (.text "0.1") := by
  intro c
  let own : Due := ⟨0, "0", .caller, Utf8.encode "S0.1"⟩
  have hStream :
      let sent := (c.now.2.sendTo .get "about" [] .caller).connection
      sent.decoder.unread ++ sent.transport.inbound =
        stream (([] ++ [own]).map Due.message) ++ [] := by
    decide +kernel
  have hSizes : ∀ d ∈ [] ++ [own], d.message.message.body.length ≤ Frame.maxSize := by
    decide +kernel
  have hNear : (c.now.2.sendTo .get "about" [] .caller).connection.Near own.message := by
    decide +kernel
  have hOpen : c.closed = false := by decide +kernel
  have hClock : c.now.1.nanos < Instant.clockRange := by decide +kernel
  have hWritten : (c.now.2.sendTo .get "about" [] .caller).ending = .returned () :=
    Ending.returned?_eq_some_iff.1 (by decide +kernel)
  have hOwn : own.id = Decimal.text c.nextId := by decide +kernel
  have hReached : (withReadChunk defaultReadChunk Loopback.empty).afterwards promptServer = c := rfl
  have hCalm : ∀ step ∈ promptServer, step.Calm := by simp [promptServer, Step.Calm]
  have hNone : ∀ d ∈ ([] : List Due), (d.id, d.recipient) ∈ c.pending := List.forall_mem_nil _
  have hEnding := answered_at_once_iff_first_and_near Loopback.empty defaultReadChunk promptServer
    hReached hCalm hOpen hClock .get "about" [] hWritten [] own hOwn rfl [] hStream hSizes hNone
  rw [if_pos (And.intro rfl hNear)] at hEnding
  exact hEnding.trans (by with_unfolding_all rfl)

/-- The reply to another request has arrived, and the next request is answered at once. -/
def replyBeforeResponse : List (Step Loopback) :=
  [.call (.send .get "a" [] ⟨"a", false⟩), .meanwhile (·.respond "0" "Sfirst"),
    .meanwhile (·.withAnswers [.tagged "Smine"])]

/-- What waits in the transport is the other reply and then the response, and the wait is given
up. -/
theorem response_behind_reply_given_up :
    let c := (ofTransport Loopback.empty).afterwards replyBeforeResponse
    let sent := (c.now.2.sendTo .get "mine" [] .caller).connection
    let other : Due := ⟨0, "0", .callback ⟨"a", false⟩, Utf8.encode "Sfirst"⟩
    let own : Due := ⟨0, "1", .caller, Utf8.encode "Smine"⟩
    c.closed = false ∧ sent.pending = [(own.id, own.recipient), (other.id, other.recipient)] ∧
      sent.decoder.unread ++ sent.transport.inbound = stream ([other, own].map Due.message) ∧
      (c.sendWait .get "mine" [] (some ⟨0⟩)).ending = .failed (.timeout ⟨0⟩) := by
  intro c sent other own
  exact ⟨by decide +kernel, by decide +kernel, by decide +kernel,
    Ending.timedOut?_eq_some_iff.1 (by decide +kernel)⟩

end DocWire.Connection

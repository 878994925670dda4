import DocWire.Proofs.Connection.Buffering
import DocWire.Proofs.Connection.Checks
import DocWire.Proofs.Connection.HangUp
import DocWire.Proofs.Connection.Waits

/-! Nothing but the server's bytes ends a wait that has no deadline. A poll reads no more often than
bytes are waiting, and once more, and each poll that does not fail takes a frame. -/

namespace DocWire

namespace Frame.Decoder

theorem weight_takeBody_le (n : Nat) (s : Bytes) : (takeBody n s).2.weight ≤ s.length + 1 := by
  unfold takeBody
  split
  · exact Nat.le_refl _
  · exact ((List.drop_sublist n s).length_le).trans (Nat.le_succ _)

/-- Being asked, a decoder has no more to give than before. -/
theorem weight_next_le (d : Decoder) : d.next.2.weight ≤ d.weight := by
  obtain ⟨buffer, expected⟩ := d
  cases expected with
  | some n => exact weight_takeBody_le n buffer
  | none =>
      refine Nat.le_trans ?_ buffer.length_dropSpaces_le
      simp only [next, takeFrame]
      split
      · exact Nat.le_refl _
      · exact Nat.le_refl _
      next n rest hHeader =>
        exact (weight_takeBody_le n rest).trans (Nat.succ_le_of_lt (length_of_header? hHeader))

theorem weight_push (d : Decoder) (data : Bytes) :
    (d.push data).weight = d.weight + data.length := by
  simp only [weight, push, List.length_append]
  exact Nat.add_right_comm ..

end Frame.Decoder

/-- What a wait may fail with that has a server and no deadline. -/
inductive WaitFailure : Error → Prop where
  | protocol (fault : ProtocolFault) : WaitFailure (.protocol fault)
  | io (e : IoError) : WaitFailure (.io e)
  | connectionLost : WaitFailure .connectionLost

namespace Connection

variable {c c' : Connection Loopback} {events : List Event} {body : Bytes}

/-- What is left for a wait to go through: what the decoder can still give, and what waits in the
transport. -/
def remaining (c : Connection Loopback) : Nat :=
  c.decoder.weight + c.transport.inbound.length

/-- An open connection over a loopback whose pieces are not empty. Nobody waits who aborts. -/
structure Ready (c : Connection Loopback) : Prop where
  isOpen : c.closed = false
  gentle : c.Gentle
  asks : 1 ≤ c.readChunk
  pieces : ∀ n, c.transport.pieceSize = some n → 1 ≤ n

/-- How a poll without a deadline ends. It takes a frame after reads that have all brought bytes, or
it fails in one more read at most. -/
inductive Completed (c : Connection Loopback) : Outcome Loopback Bool → Prop where
  | took (c' : Connection Loopback) (events : List Event) (hReady : c'.Ready)
      (hReads : events.countP Event.isRead + c'.transport.inbound.length ≤
        c.transport.inbound.length)
      (hLess : c'.remaining < c.remaining) : Completed c ⟨.returned true, c', events⟩
  | gaveUp (e : Error) (o : Outcome Loopback Bool) (hEnding : o.ending = .failed e)
      (hFailure : WaitFailure e)
      (hReads : o.trace.countP Event.isRead ≤ c.transport.inbound.length + 1) : Completed c o

theorem Completed.after {o : Outcome Loopback Bool} (h : Completed c' o)
    (hReads : events.countP Event.isRead + c'.transport.inbound.length ≤ c.transport.inbound.length)
    (hLeft : c'.remaining ≤ c.remaining) : Completed c (o.after events) := by
  cases h with
  | took c'' events' hReady hReads' hLess =>
      refine .took c'' (events ++ events') hReady ?_ (hLess.trans_le hLeft)
      rw [List.countP_append]
      omega
  | gaveUp e o hEnding hFailure hReads' =>
      refine .gaveUp e (o.after events) hEnding hFailure ?_
      rw [Outcome.after, List.countP_append]
      omega

/-- A body is handed out, or nobody waits for it. -/
theorem Ready.dispatch (h : c.Ready) (hNext : c.decoder.next.1 = .ok (some body)) :
    Completed c (dispatch { c with decoder := c.decoder.next.2 } body) := by
  have hLess : c.decoder.next.2.weight < c.decoder.weight :=
    Frame.Decoder.weight_of_next (Prod.ext hNext rfl)
  unfold Connection.dispatch
  split
  · exact .gaveUp _ _ rfl (.protocol _) (Nat.zero_le _)
  · split
    · exact .gaveUp _ _ rfl (.protocol _) (Nat.zero_le _)
    next reply _ r hWaits =>
      have hCalm : r.aborts = false := h.gentle _ (Pending.mem_of_lookup hWaits)
      simp only [Recipient.allow, hCalm, Bool.false_eq_true, if_false]
      refine .took _ _ ⟨h.isOpen, ?_, h.asks, h.pieces⟩ ?_ ?_
      · exact fun w hw => h.gentle w (List.mem_filter.1 hw).1
      · exact (Nat.zero_add _).le
      · exact Nat.add_lt_add_right hLess _

/-- A read that fails ends the poll. -/
theorem Ready.giveUpRead (h : c.Ready) (e : IoError) (c' : Connection Loopback) (n : Nat)
    (deadline : Option Instant) :
    Completed c' ((c.giveUpRead e).after [.read n deadline (.error e)]) := by
  have hSilent : (c.giveUpRead e : Outcome Loopback Bool).trace.countP Event.isRead = 0 :=
    List.countP_eq_zero.2 fun event hMem => by simp [c.isRead_giveUpRead e event hMem]
  have hReads : ((c.giveUpRead e : Outcome Loopback Bool).after
      [.read n deadline (.error e)]).trace.countP Event.isRead ≤
        c'.transport.inbound.length + 1 := by
    rw [Outcome.after, List.countP_append, hSilent]
    exact Nat.le_add_left ..
  by_cases hKind : e.kind = .unexpectedEof
  · refine .gaveUp _ _ ?_ .connectionLost hReads
    rw [Connection.giveUpRead, if_pos hKind, closeFor_eq c _ h.isOpen h.gentle]
    rfl
  · refine .gaveUp _ _ ?_ (.io e) hReads
    rw [Connection.giveUpRead, if_neg hKind]
    rfl

/-- The connection after its decoder was asked in vain and a read was made. -/
def reading (c : Connection Loopback) : Connection Loopback :=
  { c with
    decoder := c.decoder.next.2
    transport := (Transport.read c.readChunk none c.transport).2 }

theorem Ready.now (h : c.Ready) : c.now.2.Ready :=
  ⟨h.isOpen, h.gentle, h.asks, h.pieces⟩

theorem Ready.reading (h : c.Ready) : c.reading.Ready := by
  refine ⟨h.isOpen, h.gentle, h.asks, fun n hn => h.pieces n ?_⟩
  exact (c.transport.read_settings c.readChunk none).1.symm.trans hn

/-- While bytes are waiting a read brings some of them, and nothing is added to what is left. -/
theorem Ready.received (h : c.Ready) (hWaiting : c.transport.inbound ≠ []) :
    ∃ chunk, (Transport.read c.readChunk none c.transport).1 = .ok chunk ∧
      (c.reading.received (.ok chunk)).Ready ∧
      c.reading.transport.inbound.length < c.transport.inbound.length ∧
      (c.reading.received (.ok chunk)).remaining ≤ c.remaining := by
  obtain ⟨chunk, hAnswer, hSome, hSplit⟩ :=
    Loopback.read_of_waiting h.pieces h.asks none hWaiting
  have hRead := h.reading
  have hLength : c.transport.inbound.length =
      chunk.length + c.reading.transport.inbound.length := by
    rw [hSplit, List.length_append]
    rfl
  have hPos := List.length_pos_iff.2 hSome
  refine ⟨chunk, hAnswer, ⟨hRead.isOpen, hRead.gentle, hRead.asks, hRead.pieces⟩, by omega, ?_⟩
  have hAsked := c.decoder.weight_next_le
  have hPushed := c.decoder.next.2.weight_push chunk
  change (c.decoder.next.2.push chunk).weight + c.reading.transport.inbound.length ≤
    c.decoder.weight + c.transport.inbound.length
  omega

theorem Completed.ends {o : Outcome Loopback Bool} (h : Completed c o) :
    o.ending ≠ .stalled ∧ o.ending ≠ .returned false := by
  cases h with
  | took => exact ⟨(nomatch ·), (nomatch ·)⟩
  | gaveUp e _ hEnding =>
      rw [hEnding]
      exact ⟨(nomatch ·), (nomatch ·)⟩

/-- A poll without a deadline needs no more rounds than there are bytes waiting, and one more. -/
theorem Polling.completed {rounds : Nat} {polled : Bool} {o : Outcome Loopback Bool}
    (h : Polling none rounds polled c o) (hReady : c.Ready)
    (hRounds : c.transport.inbound.length < rounds) : Completed c o := by
  induction h with
  | stalled => omega
  | fault => exact .gaveUp _ _ rfl (.protocol _) (Nat.zero_le _)
  | body rounds polled c body hNext => exact hReady.dispatch hNext
  | late rounds polled c t hNext hLooks => cases hLooks.of_none.1
  | failed rounds polled c t t' e hNext hLooks hRead =>
      obtain ⟨-, rfl⟩ := hLooks.of_none
      obtain rfl : (Transport.read c.readChunk none c.transport).2 = t' := congrArg Prod.snd hRead
      exact hReady.reading.giveUpRead e c c.readChunk none
  | more rounds polled c t t' chunk o hNext hLooks hRead rest ih =>
      obtain ⟨-, rfl⟩ := hLooks.of_none
      have hAnswer : (Transport.read c.readChunk none c.transport).1 = .ok chunk :=
        congrArg Prod.fst hRead
      obtain rfl : (Transport.read c.readChunk none c.transport).2 = t' := congrArg Prod.snd hRead
      have hWaiting : c.transport.inbound ≠ [] := by
        intro hEmpty
        obtain ⟨e, hFails⟩ := c.transport.read_of_nothing hEmpty c.readChunk
        cases hAnswer.symm.trans hFails
      obtain ⟨chunk', hAnswer', hReady', hFewer, hLeft⟩ := hReady.received hWaiting
      obtain rfl : chunk = chunk' := Except.ok.inj (hAnswer.symm.trans hAnswer')
      have hRead : [Event.read c.readChunk none (.ok chunk)].countP Event.isRead = 1 := rfl
      refine (ih hReady' (hFewer.trans_le (Nat.le_of_lt_succ hRounds))).after ?_ hLeft
      rw [hRead, Nat.add_comm]
      exact hFewer

/-- More rounds than a poll needs make no difference. -/
theorem Ready.poll (h : c.Ready) : Completed c (c.poll none) ∧
    ∀ rounds, c.transport.inbound.length < rounds →
      pollWithin none rounds false c = c.poll none := by
  have hPatience : c.transport.inbound.length < Transport.patience c.transport :=
    Nat.lt_add_of_pos_right (Nat.succ_pos 1)
  have hPolling := poll_polling h.isOpen none
  have hCompleted := hPolling.completed h hPatience
  refine ⟨hCompleted, fun rounds hRounds => ?_⟩
  have hPolling' := pollWithin_polling none rounds false c
  exact hPolling'.unique hPolling (hPolling'.completed h hRounds).ends.1 hCompleted.ends.1

/-- An operation has come to an end, with a result or a failure of the server's, and has not read
more often than `bytes` were waiting and once more. -/
structure Concluded {α : Type} (bytes : Nat) (o : Outcome Loopback α) : Prop where
  ending : (∃ a, o.ending = .returned a) ∨ ∃ e, o.ending = .failed e ∧ WaitFailure e
  reads : o.trace.countP Event.isRead ≤ bytes + 1

theorem Completed.concluded {o : Outcome Loopback Bool} (h : Completed c o) :
    Concluded c.transport.inbound.length o := by
  cases h with
  | took c' events _ hReads => exact ⟨.inl ⟨true, rfl⟩, by dsimp only; omega⟩
  | gaveUp e _ hEnding hFailure hReads => exact ⟨.inr ⟨e, hEnding, hFailure⟩, hReads⟩

theorem Concluded.ends {α : Type} {bytes : Nat} {o : Outcome Loopback α} (h : Concluded bytes o) :
    o.ending ≠ .stalled := by
  intro hStalled
  rcases h.ending with ⟨a, hEnding⟩ | ⟨e, hEnding, -⟩
  · cases hStalled.symm.trans hEnding
  · cases hStalled.symm.trans hEnding

/-- A wait without a limit makes a poll for each frame that it takes, and one more at most. -/
theorem Awaiting.concluded {id : String} {rounds : Nat} {polled : Bool}
    {o : Outcome Loopback Response} (h : Awaiting id none rounds polled c o) (hReady : c.Ready)
    (hRounds : c.remaining < rounds) : Concluded c.transport.inbound.length o := by
  induction h with
  | stalled => omega
  | late rounds polled c t bound hLimit => cases hLimit
  | broken rounds polled c t o ending hLooks hPoll hEnding =>
      obtain ⟨-, rfl⟩ := hLooks.of_none
      have hCompleted : Completed c o := hPoll ▸ hReady.poll.1
      cases hCompleted with
      | took => cases hEnding
      | gaveUp e o hPolled hFailure hReads =>
          rw [hPolled] at hEnding
          cases hEnding
          exact ⟨.inr ⟨e, rfl, hFailure⟩, hReads⟩
  | found rounds polled c t o dispatched response hLooks hPoll hEnding hFound =>
      obtain ⟨-, rfl⟩ := hLooks.of_none
      have hCompleted : Completed c o := hPoll ▸ hReady.poll.1
      exact ⟨.inl ⟨response, rfl⟩, hCompleted.concluded.reads⟩
  | more rounds polled c t o dispatched o' hLooks hPoll hEnding hNotFound rest ih =>
      obtain ⟨-, rfl⟩ := hLooks.of_none
      have hCompleted : Completed c o := hPoll ▸ hReady.poll.1
      cases hCompleted with
      | gaveUp e o hPolled => cases hPolled.symm.trans hEnding
      | took c' events hReady' hReads hLess =>
          have hLater : Concluded c'.transport.inbound.length o' :=
            ih hReady' (hLess.trans_le (Nat.le_of_lt_succ hRounds))
          have hReads' := hLater.reads
          refine ⟨hLater.ending, ?_⟩
          change (events ++ o'.trace).countP Event.isRead ≤ _
          rw [List.countP_append]
          omega

/-- More rounds than a wait needs make no difference. -/
theorem Ready.await (h : c.Ready) {rounds : Nat} (hRounds : c.remaining < rounds) (id : String)
    (polled : Bool) :
    Concluded c.transport.inbound.length (await id none rounds polled c) ∧
      ∀ rounds', c.remaining < rounds' →
        Connection.await id none rounds' polled c = Connection.await id none rounds polled c := by
  have hAwaiting := await_awaiting id none rounds polled c
  have hConcluded := hAwaiting.concluded h hRounds
  refine ⟨hConcluded, fun rounds' hRounds' => ?_⟩
  have hAwaiting' := await_awaiting id none rounds' polled c
  exact hAwaiting'.unique hAwaiting (hAwaiting'.concluded h hRounds').ends hConcluded.ends

/-- A wait is given more rounds than it can use. -/
theorem remaining_lt_awaitRounds (c : Connection Loopback) : c.remaining < c.awaitRounds := by
  change c.decoder.weight + c.transport.inbound.length <
    c.transport.inbound.length + 2 + c.decoder.buffer.length + 2
  unfold Frame.Decoder.weight
  split <;> omega

theorem countP_isRead_sendTo (c : Connection Loopback) (method : Method) (target : String)
    (payload : Bytes) : (c.sendTo method target payload .caller).trace.countP Event.isRead = 0 :=
  List.countP_eq_zero.2 fun e he => by simp [c.isRead_sendTo method target payload .caller e he]

/-- A request that has been written leaves the connection ready for the wait. -/
theorem Ready.sent (h : c.Ready) (hOrderly : c.Orderly) {method : Method} {target : String}
    {payload : Bytes} (hWritten : (c.sendTo method target payload .caller).ending = .returned ()) :
    (c.sendTo method target payload .caller).connection.Ready := by
  obtain ⟨data, answer, hSent⟩ :=
    sendTo_of_returned h.isOpen method target payload .caller hWritten
  have hPending := Pending.insert_of_notMem hOrderly.fresh .caller
  rw [hSent]
  refine ⟨h.isOpen, ?_, h.asks, fun n hn => h.pieces n ?_⟩
  · show ∀ w ∈ c.pending.insert (Decimal.text c.nextId) .caller, _
    rw [hPending]
    exact List.forall_mem_cons.2 ⟨rfl, h.gentle⟩
  · exact (c.transport.write_pieceSize data).symm.trans hn

/-- How a wait for a response concludes that has no limit: its target is refused, or it comes to an
end, and more rounds would not make it last longer. -/
theorem Ready.sendWait (h : c.Ready) (hOrderly : c.Orderly) (method : Method) (target : String)
    (payload : Bytes) :
    let sent := c.now.2.sendTo method target payload .caller
    let o := c.sendWait method target payload none
    (o.ending = .failed (.invalidTarget (.unsendable target)) ∧ o.trace = [] ∨
      Concluded sent.connection.transport.inbound.length o) ∧
    (sent.ending = .returned () → ∀ rounds, sent.connection.remaining < rounds →
      o = (Connection.await (Decimal.text c.nextId) none rounds false sent.connection).after
        sent.trace) := by
  intro sent o
  have hWait : o = sent.followedBy fun _ =>
      if c.closed then sent.endingWith (.returned .connectionClosed)
      else (Connection.await (Decimal.text c.nextId) none sent.connection.awaitRounds false
        sent.connection).after sent.trace :=
    sendWait_eq c method target payload none
  have hSending : Sending c.now.2 target .caller sent :=
    sendTo_sending h.now.isOpen (hOrderly.of_eq rfl rfl rfl) h.now.gentle rfl method target payload
  have hNoReads : sent.trace.countP Event.isRead = 0 :=
    c.now.2.countP_isRead_sendTo method target payload
  have hReady (hWritten : sent.ending = .returned ()) : sent.connection.Ready :=
    h.now.sent (hOrderly.of_eq rfl rfl rfl) hWritten
  rw [hWait]
  clear_value sent
  cases hSending with
  | refused => exact ⟨.inl ⟨rfl, rfl⟩, (nomatch ·)⟩
  | unwritten t data e answer =>
      refine ⟨.inr ⟨.inr ⟨.io e, rfl, .io e⟩, ?_⟩, (nomatch ·)⟩
      exact hNoReads.le.trans (Nat.zero_le _)
  | written t data =>
      obtain ⟨hConcluded, hEnough⟩ := (hReady rfl).await (remaining_lt_awaitRounds _)
        (Decimal.text c.nextId) false
      rw [Outcome.followedBy_of_returned rfl, if_neg (by simp [h.isOpen])]
      refine ⟨.inr ⟨hConcluded.ending, ?_⟩, fun _ rounds hRounds => ?_⟩
      · rw [Outcome.after, List.countP_append, hNoReads, Nat.zero_add]
        exact hConcluded.reads
      · rw [hEnough rounds hRounds]

/-- On a closed connection a wait is refused, or it is answered without a look at the transport. -/
theorem sendWait_of_closed_none (hClosed : c.closed = true) (method : Method) (target : String)
    (payload : Bytes) :
    let o := c.sendWait method target payload none
    (o.ending = .failed (.invalidTarget (.unsendable target)) ∧ o.trace = []) ∨
      o.ending = .returned .connectionClosed ∧ o.trace.countP Event.isRead = 0 := by
  intro o
  cases hTarget : target.toList.contains ' ' with
  | true =>
      have hWait : o = _ := sendWait_eq c method target payload none
      have hRefused : c.now.2.sendTo method target payload .caller =
          c.now.2.finish (.failed (.invalidTarget (.unsendable target))) := by
        rw [sendTo, if_pos hTarget]
      rw [hWait, hRefused]
      exact .inl ⟨rfl, rfl⟩
  | false =>
      obtain ⟨hEnding, hTrace⟩ := sendWait_of_closed hClosed method payload none hTarget
      refine .inr ⟨hEnding, ?_⟩
      rw [show o.trace = _ from hTrace]
      rfl

/-- Over a loopback, whatever sizes of reads are set, with any bytes waiting and any answers
prepared, and reached in any way without aborting callbacks: a check without a limit and a wait
without one come to an end. Neither reads more often than bytes are waiting, those of the request's
own answer included, and once more. A check returns, or fails with a fault of the server or the
transport or the end of the stream, and so does a wait unless its target is refused; no wait runs
out of time. On a closed connection neither reads at all. The rounds that are granted to the loops
do not matter: once they are more than the bytes that are left, the loops end before. -/
theorem waits_without_limit_end (transport : Loopback) (readChunk : Nat) (serverChunk : Option Nat)
    (steps : List (Step Loopback))
    (hReached : (withReadChunk readChunk transport).afterwards steps = c)
    (hCalm : ∀ step ∈ steps, step.Calm)
    (hServer : c.transport.pieceSize = serverChunk.map (max · 1)) :
    (Concluded c.transport.inbound.length (c.check none) ∧
      (c.closed = false → (c.check none).ending ≠ .returned false ∧
        ∀ rounds, c.transport.inbound.length < rounds →
          c.check none = pollWithin none rounds false c.now.2) ∧
      (c.closed = true → (c.check none).ending = .returned false ∧ (c.check none).trace = [])) ∧
    ∀ method target payload,
      let sent := c.now.2.sendTo method target payload .caller
      let o := c.sendWait method target payload none
      (o.ending = .failed (.invalidTarget (.unsendable target)) ∧ o.trace = [] ∨
        Concluded sent.connection.transport.inbound.length o) ∧
      (c.closed = false → sent.ending = .returned () →
        ∀ rounds, sent.connection.remaining < rounds →
          o = (await (Decimal.text c.nextId) none rounds false sent.connection).after sent.trace) ∧
      (c.closed = true → o.trace.countP Event.isRead = 0) := by
  have hAccounts := (withReadChunk_accounts readChunk transport).history hCalm
  have hChunk := (withReadChunk readChunk transport).afterwards_readChunk steps
  rw [hReached] at hAccounts hChunk
  cases hClosed : c.closed with
  | true =>
      obtain ⟨hEnding, hTrace⟩ := check_of_closed hClosed none
      refine ⟨⟨⟨.inl ⟨false, hEnding⟩, ?_⟩, (nomatch ·), fun _ => ⟨hEnding, hTrace⟩⟩, ?_⟩
      · rw [hTrace]
        exact Nat.zero_le _
      · intro method target payload sent o
        rcases sendWait_of_closed_none hClosed method target payload with
          ⟨hRefused, hSilent⟩ | ⟨hAnswered, hNoReads⟩
        · refine ⟨.inl ⟨hRefused, hSilent⟩, (nomatch ·), fun _ => ?_⟩
          rw [show o.trace = [] from hSilent]
          rfl
        · refine ⟨.inr ⟨.inl ⟨_, hAnswered⟩, ?_⟩, (nomatch ·), fun _ => hNoReads⟩
          exact hNoReads.le.trans (Nat.zero_le _)
  | false =>
      have hReady : c.Ready := by
        refine ⟨hClosed, hAccounts.gentle, hChunk ▸ Nat.le_max_right .., ?_⟩
        intro n hn
        rw [hServer] at hn
        obtain ⟨size, -, rfl⟩ := Option.map_eq_some_iff.1 hn
        exact Nat.le_max_right ..
      have hCheck : c.check none = c.now.2.poll none := rfl
      obtain ⟨hCompleted, hEnough⟩ := hReady.now.poll
      rw [hCheck]
      refine ⟨⟨hCompleted.concluded, fun _ => ⟨hCompleted.ends.2, ?_⟩, (nomatch ·)⟩, ?_⟩
      · exact fun rounds hRounds => (hEnough rounds hRounds).symm
      · intro method target payload sent o
        obtain ⟨hEnding, hRounds⟩ := hReady.sendWait hAccounts.orderly method target payload
        exact ⟨hEnding, fun _ => hRounds, (nomatch ·)⟩

/-- One reply waits in a loopback that hands out one byte at a time, and the next request will not
be answered. -/
def oneReplySlowly : List (Step Loopback) :=
  [.call (.send .get "a" [] ⟨"a", false⟩), .meanwhile (·.inPiecesOf 0),
    .meanwhile (·.respond "0" "Sno")]

/-- A check reads all seven bytes of the reply. A wait reads them too, and once more in vain. -/
theorem waits_without_limit_end_oneReplySlowly :
    let c := (withReadChunk 0 Loopback.empty).afterwards oneReplySlowly
    let check := c.check none
    let wait := c.sendWait .get "b" [] none
    Concluded 7 check ∧ check.trace.countP Event.isRead = 7 ∧
      Concluded 7 wait ∧ wait.trace.countP Event.isRead = 8 := by
  intro c check wait
  have hServer : c.transport.pieceSize = (some 0).map (max · 1) := by decide +kernel
  have hWaiting : c.transport.inbound.length = 7 := by decide +kernel
  have hSent : (c.now.2.sendTo .get "b" [] .caller).connection.transport.inbound.length = 7 := by
    decide +kernel
  have hReads : wait.trace.countP Event.isRead = 8 := by decide +kernel
  obtain ⟨⟨hCheck, -⟩, hWaits⟩ := waits_without_limit_end Loopback.empty 0 (some 0) oneReplySlowly
    rfl (by simp [oneReplySlowly, Step.Calm]) hServer
  obtain ⟨hWait, -⟩ := hWaits .get "b" []
  rw [hWaiting] at hCheck
  rw [hSent] at hWait
  refine ⟨hCheck, by decide +kernel, hWait.resolve_left fun hRefused => ?_, hReads⟩
  rw [show wait.trace = [] from hRefused.2] at hReads
  cases hReads

end Connection

end DocWire

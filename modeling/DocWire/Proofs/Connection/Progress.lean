import DocWire.Proofs.Connection.Buffering
import DocWire.Proofs.Connection.ZeroWait
import Mathlib.Algebra.Order.Floor.Div

/-! A check whose deadline has come when it begins still reads once, if it has to. So a client that
only ever checks in this way gets on by one read per check. -/

namespace DocWire

namespace Connection

variable {c : Connection Loopback} {d : Due} {more : Bytes} {size missing : Nat}

/-- An open connection over a loopback whose stream begins with a reply that is due. Of its frame
`missing` bytes have not been read, and a read brings `size` bytes at most. -/
structure Facing (c : Connection Loopback) (d : Due) (more : Bytes) (size missing : Nat) :
    Prop where
  isOpen : c.closed = false
  orderly : c.Orderly
  gentle : c.Gentle
  waits : (d.id, d.recipient) ∈ c.pending
  clock : c.transport.latest.nanos < Instant.clockRange
  batch : c.transport.batch c.readChunk = size
  whole : d.message.message.body.length ≤ Frame.maxSize
  ahead : c.decoder.Ahead c.transport.inbound
    (List.replicate d.gap Bytes.space ++ (Frame.encode d.message.message.body ++ more))
  missing : c.transport.inbound.length - more.length = missing

/-- A look at the clock changes nothing of that. -/
theorem Facing.now (h : c.Facing d more size missing) : c.now.2.Facing d more size missing :=
  { h with
    orderly := h.orderly.of_eq rfl rfl rfl
    gentle := h.gentle.of_eq rfl
    clock := c.transport.latest_pass ▸ h.clock }

/-- A check without time is a poll whose deadline has come. -/
theorem Facing.check_zero (h : c.Facing d more size missing) :
    c.check (some ⟨0⟩) = c.now.2.poll (some c.now.2.transport.clock) := by
  have hClock : c.now.1.nanos < Instant.clockRange :=
    Nat.lt_of_le_of_lt c.transport.pass_clock_le_latest h.clock
  have hDeadline : Instant.deadline c.now.1 (some ⟨0⟩) = some c.now.1 := by
    simp [Instant.deadline, Instant.after?, hClock]
  change c.now.2.poll (Instant.deadline c.now.1 (some ⟨0⟩)) = _
  rw [hDeadline]
  rfl

/-- With a reply before it a decoder that is asked hands it out if it has read all of it, and else
waits for what is missing. -/
theorem Facing.next (h : c.Facing d more size missing) :
    (missing = 0 ∧ c.decoder.next.1 = .ok (some d.message.message.body)) ∨
    (0 < missing ∧ c.decoder.next.1 = .ok none ∧
      Facing { c with decoder := c.decoder.next.2 } d more size missing) := by
  have hMissing := h.missing
  rcases Frame.Decoder.next_of_ahead h.ahead h.whole with ⟨hNear, hNext⟩ | ⟨hFar, hNext, hLeft⟩
  · exact .inl ⟨by omega, hNext⟩
  · exact .inr ⟨by omega, hNext, h.isOpen, h.orderly.of_eq rfl rfl rfl, h.gentle.of_eq rfl, h.waits,
      h.clock, h.batch, h.whole, hLeft, h.missing⟩

/-- A reply that has been read is handed out. -/
theorem Facing.dispatch (h : c.Facing d more size missing) (asked : Frame.Decoder) :
    dispatch { c with decoder := asked } d.message.message.body =
      ⟨.returned true, { c with decoder := asked, pending := c.pending.erase d.id },
        [.deliver d.delivery]⟩ :=
  dispatch_due (c := { c with decoder := asked }) (h.orderly.of_eq rfl rfl rfl) (h.gentle.of_eq rfl)
    h.waits

/-- The connection after a read for which the decoder has been asked. -/
def refilled (c : Connection Loopback) : Connection Loopback :=
  { c with
    decoder := c.decoder.next.2.push (c.transport.inbound.take (c.transport.batch c.readChunk))
    transport := { c.transport.pass with
      reads := c.transport.reads + 1
      inbound := c.transport.inbound.drop (c.transport.batch c.readChunk) } }

/-- A read brings the next `size` bytes of what is missing. -/
theorem Facing.refilled (h : c.Facing d more size missing) (hMissing : 0 < missing) :
    c.refilled.Facing d more size (missing - size) := by
  rcases h.next with ⟨hNone, -⟩ | ⟨-, -, hAsked⟩
  · omega
  · have hClock : c.refilled.transport.latest = c.transport.latest := c.transport.latest_pass
    refine ⟨h.isOpen, h.orderly.of_eq rfl rfl rfl, h.gentle.of_eq rfl, h.waits, hClock ▸ h.clock,
      h.batch, h.whole, ?_, ?_⟩
    · apply Frame.Decoder.ahead_push.2
      rw [Connection.refilled, List.take_append_drop]
      exact hAsked.ahead
    · have hBytes := h.missing
      rw [Connection.refilled, List.length_drop, h.batch]
      omega

theorem poll_refilled (hOpen : c.closed = false) (hNext : c.decoder.next.1 = .ok none)
    (hWaiting : c.transport.inbound ≠ []) (deadline : Option Instant) :
    c.poll deadline = (pollWithin deadline (c.transport.inbound.length + 1) true c.refilled).after
      [.read c.readChunk deadline
        (.ok (c.transport.inbound.take (c.transport.batch c.readChunk)))] := by
  rw [poll_of_waiting hOpen hNext hWaiting, Connection.refilled]
  have hRead := Loopback.read_of_inbound hWaiting c.readChunk deadline
  change Transport.read c.readChunk deadline c.transport = _ at hRead
  rw [hRead]

/-- A poll without time for a reply of which something is missing reads once. What it comes to then
depends on whether the read has brought the rest. -/
theorem Facing.poll_of_missing (h : c.Facing d more size missing) (hMissing : 0 < missing) :
    let asked := { c.refilled with decoder := c.refilled.decoder.next.2 }
    let chunk := c.transport.inbound.take (c.transport.batch c.readChunk)
    c.poll (some c.transport.clock) = Outcome.after
      (if missing ≤ size then asked.dispatch d.message.message.body
      else finish { asked with transport := c.refilled.transport.pass } (.returned false))
      [.read c.readChunk (some c.transport.clock) (.ok chunk)] := by
  rcases h.next with ⟨hNone, -⟩ | ⟨-, hNext, -⟩
  · omega
  · have hWaiting : c.transport.inbound ≠ [] := by
      have hBytes := h.missing
      intro hNil
      rw [hNil, List.length_nil] at hBytes
      omega
    have hPassed : Instant.passed (some c.transport.clock) c.refilled.transport.clock = true :=
      decide_eq_true c.transport.le_pass_clock
    have hAgain : c.refilled.decoder.next.1 =
        if missing ≤ size then .ok (some d.message.message.body) else .ok none := by
      rcases (h.refilled hMissing).next with ⟨hNone, hBody⟩ | ⟨hSome, hNoBody, -⟩
      · rw [if_pos (by omega), hBody]
      · rw [if_neg (by omega), hNoBody]
    intro asked chunk
    rw [poll_refilled h.isOpen hNext hWaiting]
    exact congrArg (Outcome.after · _)
      (pollWithin_of_passed hPassed hAgain c.transport.inbound.length)

/-- The poll whose read completes the reply hands it out, and so does a poll that finds it complete
and does not read. -/
theorem Facing.poll_near (h : c.Facing d more size missing) (hNear : missing ≤ size) :
    let o := c.poll (some c.transport.clock)
    o.ending = .returned true ∧ deliveries o.trace = [d.delivery] ∧
      o.trace.countP Event.isRead = min missing 1 ∧
      o.connection.pending = c.pending.erase d.id := by
  by_cases hMissing : 0 < missing
  · have hPoll := h.poll_of_missing hMissing
    dsimp only at hPoll ⊢
    rw [if_pos hNear, (h.refilled hMissing).dispatch] at hPoll
    rw [hPoll]
    exact ⟨rfl, rfl, (Nat.min_eq_right hMissing).symm, rfl⟩
  · rcases h.next with ⟨-, hNext⟩ | ⟨hSome, -⟩
    · dsimp only
      rw [poll_loopback h.isOpen, pollWithin_succ, hNext]
      dsimp only
      rw [h.dispatch]
      refine ⟨rfl, rfl, ?_, rfl⟩
      rw [Nat.eq_zero_of_not_pos hMissing]
      rfl
    · exact absurd hSome hMissing

/-- A poll whose read does not complete the reply comes back without one, and that much less is
missing. -/
theorem Facing.poll_far (h : c.Facing d more size missing) (hFar : size < missing) :
    let o := c.poll (some c.transport.clock)
    o.ending = .returned false ∧ deliveries o.trace = [] ∧ o.trace.countP Event.isRead = 1 ∧
      o.connection.pending = c.pending ∧
      o.connection.Facing d more size (missing - size) := by
  have hMissing : 0 < missing := Nat.zero_lt_of_lt hFar
  have hPoll := h.poll_of_missing hMissing
  dsimp only at hPoll ⊢
  rw [if_neg (Nat.not_le_of_gt hFar)] at hPoll
  rw [hPoll]
  rcases (h.refilled hMissing).next with ⟨hNone, -⟩ | ⟨-, -, hAsked⟩
  · omega
  · exact ⟨rfl, rfl, rfl, rfl, hAsked.now⟩

/-- One read brings `size` bytes, and the others the rest. -/
theorem reads_of_lt (hSize : 1 ≤ size) (hFar : size < missing) :
    missing ⌈/⌉ size = (missing - size) ⌈/⌉ size + 1 := by
  rw [Nat.ceilDiv_eq_add_pred_div, Nat.ceilDiv_eq_add_pred_div, ← Nat.add_div_right _ hSize]
  congr 1
  omega

theorem reads_of_le (hNear : missing ≤ size) : missing ⌈/⌉ size = min missing 1 := by
  rw [Nat.ceilDiv_eq_add_pred_div]
  rcases Nat.eq_zero_or_pos missing with rfl | hSome
  · rcases Nat.eq_zero_or_pos size with rfl | hSize
    · rfl
    · exact Nat.div_eq_of_lt (by omega)
  · rw [Nat.min_eq_right hSome]
    exact Nat.div_eq_of_lt_le (by omega) (by omega)

theorem reads_pos (hSize : 1 ≤ size) (hMissing : 0 < missing) : 1 ≤ missing ⌈/⌉ size := by
  rw [Nat.ceilDiv_eq_add_pred_div]
  exact Nat.div_pos (by omega) hSize

/-- Checks in a row, each of which reads once, hand the reply out when as many have been made as it
takes reads to complete it. -/
theorem Facing.checks (h : c.Facing d more size missing) (hSize : 1 ≤ size) :
    let rounds := max 1 (missing ⌈/⌉ size)
    let checks := List.replicate rounds (.call (.check (some ⟨0⟩)))
    (c.outcomes checks).map (fun o => (o.ending, deliveries o.trace)) =
        List.replicate (rounds - 1) (.returned (.dispatched false), []) ++
          [(.returned (.dispatched true), [d.delivery])] ∧
      (c.traceOf checks).countP Event.isRead = missing ⌈/⌉ size ∧
      (c.afterwards checks).pending = c.pending.erase d.id := by
  have hPerformed (c : Connection Loopback) {b : Bool}
      (hEnding : (c.check (some ⟨0⟩)).ending = .returned b) :
      (c.perform (.check (some ⟨0⟩))).ending = .returned (.dispatched b) :=
    congrArg (Ending.map Returned.dispatched) hEnding
  induction missing using Nat.strong_induction_on generalizing c with
  | _ missing ih =>
    by_cases hNear : missing ≤ size
    · obtain ⟨hEnding, hDeliveries, hReads, hPending⟩ := h.now.poll_near hNear
      rw [← h.check_zero] at hEnding hDeliveries hReads hPending
      have hOne : max 1 (min missing 1) = 1 := Nat.max_eq_left (Nat.min_le_right ..)
      dsimp only
      rw [reads_of_le hNear, hOne, ← hPerformed c hEnding, ← hDeliveries, ← hReads]
      exact ⟨rfl, congrArg _ (List.append_nil _), hPending⟩
    · have hFar : size < missing := Nat.lt_of_not_le hNear
      obtain ⟨hEnding, hDeliveries, hReads, hPending, hLeft⟩ := h.now.poll_far hFar
      rw [← h.check_zero] at hEnding hDeliveries hReads hPending hLeft
      obtain ⟨hOutcomes, hReads', hPending'⟩ := ih (missing - size) (by omega) hLeft
      have hMore : 1 ≤ (missing - size) ⌈/⌉ size := reads_pos hSize (by omega)
      dsimp only
      rw [reads_of_lt hSize hFar]
      generalize (missing - size) ⌈/⌉ size = rounds at hOutcomes hReads' hPending' hMore ⊢
      rw [Nat.max_eq_right hMore] at hOutcomes hReads' hPending'
      rw [Nat.max_eq_right (Nat.le_add_left 1 rounds), List.replicate_succ, Nat.add_sub_cancel]
      refine ⟨?_, ?_, hPending'.trans (congrArg (Pending.erase · d.id) hPending)⟩
      · have hRow (r : Ending Returned × List Delivery) :
            List.replicate rounds r = r :: List.replicate (rounds - 1) r := by
          rw [← List.replicate_succ, Nat.sub_add_cancel hMore]
        rw [hRow, List.cons_append, ← hOutcomes, ← hPerformed c hEnding, ← hDeliveries]
        rfl
      · change List.countP Event.isRead ((c.check (some ⟨0⟩)).trace ++ _) = _
        rw [List.countP_append, hReads, Nat.add_comm]
        exact congrArg (· + 1) hReads'

/-- How many bytes a read brings at most. The connection and the server may each limit it, neither
to zero. -/
def effectiveSize (readChunk : Nat) : Option Nat → Nat
  | none => max readChunk 1
  | some serverChunk => min (max serverChunk 1) (max readChunk 1)

theorem effectiveSize_pos (readChunk : Nat) (serverChunk : Option Nat) :
    1 ≤ effectiveSize readChunk serverChunk := by
  cases serverChunk with
  | none => exact Nat.le_max_right ..
  | some n => exact Nat.le_min.2 ⟨Nat.le_max_right .., Nat.le_max_right ..⟩

/-- An open connection over a loopback, reached in any way without aborting callbacks, and a reply
that is due at the front of its stream: of its frame `missing` bytes are still to be read, and all
of it has arrived. Checks without time come back with nothing, until as many reads have been made as
it takes to complete the frame, one by each check; the check that completes it hands the reply out.
If nothing is missing, that is the first check, and it does not read. -/
theorem checks_read_once_each_until_whole (transport : Loopback) (readChunk : Nat)
    (serverChunk : Option Nat) (steps : List (Step Loopback))
    (hReached : (withReadChunk readChunk transport).afterwards steps = c)
    (hCalm : ∀ step ∈ steps, step.Calm) (hOpen : c.closed = false)
    (hServer : c.transport.pieceSize = serverChunk.map (max · 1))
    (hClock : c.transport.latest.nanos < Instant.clockRange) (d : Due) (more : Bytes)
    (hWaits : (d.id, d.recipient) ∈ c.pending)
    (hWhole : d.message.message.body.length ≤ Frame.maxSize)
    (hStream : c.decoder.unread ++ c.transport.inbound = d.message.bytes ++ more) :
    let missing := d.message.bytes.length - c.decoder.unread.length
    let reads := missing ⌈/⌉ effectiveSize readChunk serverChunk
    let checks := List.replicate (max 1 reads) (.call (.check (some ⟨0⟩)))
    (c.outcomes checks).map (fun o => (o.ending, deliveries o.trace)) =
        List.replicate (max 1 reads - 1) (.returned (.dispatched false), []) ++
          [(.returned (.dispatched true), [d.delivery])] ∧
      (c.traceOf checks).countP Event.isRead = reads ∧
      (c.afterwards checks).pending = c.pending.erase d.id := by
  have hAccounts := (withReadChunk_accounts readChunk transport).history hCalm
  have hChunk := (withReadChunk readChunk transport).afterwards_readChunk steps
  rw [hReached] at hAccounts hChunk
  have hBatch : c.transport.batch c.readChunk = effectiveSize readChunk serverChunk := by
    rw [hChunk, Loopback.batch, hServer]
    cases serverChunk <;> rfl
  have hMissing : c.transport.inbound.length - more.length =
      d.message.bytes.length - c.decoder.unread.length := by
    have hLength := congrArg List.length hStream
    rw [List.length_append, List.length_append] at hLength
    omega
  have hFacing : c.Facing d more (effectiveSize readChunk serverChunk)
      (d.message.bytes.length - c.decoder.unread.length) :=
    ⟨hOpen, hAccounts.orderly, hAccounts.gentle, hWaits, hClock, hBatch, hWhole,
      Frame.Decoder.ahead_of_front hStream, hMissing⟩
  exact hFacing.checks (effectiveSize_pos readChunk serverChunk)

/-- Over a loopback that hands out three bytes at a time, a check has read the count of a reply and
its first byte. -/
def countAndOneByte : List (Step Loopback) :=
  [.call (.send .get "a" [] ⟨"a", false⟩), .meanwhile (·.inPiecesOf 3),
    .meanwhile (·.push (Utf8.encode "8 0 Sabcde7")), .call (.check (some ⟨0⟩))]

/-- Seven bytes are missing, so the third check from here hands the reply out. -/
theorem checks_read_once_each_until_whole_countAndOneByte :
    let c := (withReadChunk 64 Loopback.empty).afterwards countAndOneByte
    let checks := List.replicate 3 (.call (.check (some ⟨0⟩)))
    c.decoder = ⟨Utf8.encode "0", some 8⟩ ∧ c.transport.inbound = Utf8.encode " Sabcde7" ∧
      (c.outcomes checks).map (fun o => (o.ending, deliveries o.trace)) =
        [(.returned (.dispatched false), []), (.returned (.dispatched false), []),
          (.returned (.dispatched true), [⟨some "0", .callback ⟨"a", false⟩, .text "abcde"⟩])] ∧
      (c.traceOf checks).countP Event.isRead = 3 := by
  intro c checks
  let d : Due := ⟨0, "0", .callback ⟨"a", false⟩, Utf8.encode "Sabcde"⟩
  have hDecoder : c.decoder = ⟨Utf8.encode "0", some 8⟩ := by decide +kernel
  have hInbound : c.transport.inbound = Utf8.encode " Sabcde7" := by decide +kernel
  have hServer : c.transport.pieceSize = (some 3).map (max · 1) := by decide +kernel
  have hClock : c.transport.latest.nanos < Instant.clockRange := by decide +kernel
  have hPending : c.pending = [("0", .callback ⟨"a", false⟩)] := by decide +kernel
  have hWaits : (d.id, d.recipient) ∈ c.pending := by
    rw [hPending]
    exact List.mem_singleton.2 rfl
  have hStream : c.decoder.unread ++ c.transport.inbound = d.message.bytes ++ Utf8.encode "7" := by
    rw [hDecoder, hInbound]
    decide +kernel
  have hReads : (d.message.bytes.length - c.decoder.unread.length) ⌈/⌉
      effectiveSize 64 (some 3) = 3 := by
    rw [hDecoder]
    decide +kernel
  obtain ⟨hOutcomes, hCount, -⟩ := checks_read_once_each_until_whole Loopback.empty 64 (some 3)
    countAndOneByte rfl (by simp [countAndOneByte, Step.Calm]) (by decide +kernel) hServer hClock d
    (Utf8.encode "7") hWaits (by decide +kernel) hStream
  rw [hReads] at hOutcomes hCount
  exact ⟨hDecoder, hInbound, hOutcomes.trans (by with_unfolding_all rfl), hCount⟩

end Connection

end DocWire

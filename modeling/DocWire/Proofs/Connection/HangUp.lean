import DocWire.Proofs.Connection.Final
import DocWire.Proofs.Frame.Messages
import DocWire.Proofs.Transport.Ending
import DocWire.Transport.Loopback
import DocWire.Transport.Rehearsal

/-! On a stream that ends a wait takes every whole frame before it comes to the end: the end is
looked at only when what is held is no whole frame, whatever the sizes of the pieces are. -/

namespace DocWire

/-- A reply that is due to a request that waits: the spaces in front of its frame, the request's id,
who waits for it, and the bytes of the answer. -/
structure Due where
  gap : Nat := 0
  id : String
  recipient : Recipient
  answer : Bytes

namespace Due

def message (d : Due) : Spaced :=
  ⟨d.gap, .reply d.id d.answer⟩

/-- What is handed out when the reply arrives. -/
def delivery (d : Due) : Delivery :=
  ⟨some d.id, d.recipient, Reply.readAnswer d.answer⟩

end Due

namespace Connection

variable {σ : Type} {Holds : σ → Bytes → Prop} {c c' : Connection σ}

/-- What a poll leaves as it was while it reads. -/
structure Hears (c c' : Connection σ) : Prop where
  closed : c'.closed = c.closed
  readChunk : c'.readChunk = c.readChunk
  pending : c'.pending = c.pending
  nextId : c'.nextId = c.nextId

theorem Hears.trans {c'' : Connection σ} (first : Hears c c') (second : Hears c' c'') :
    Hears c c'' :=
  ⟨second.closed.trans first.closed, second.readChunk.trans first.readChunk,
    second.pending.trans first.pending, second.nextId.trans first.nextId⟩

variable [Transport σ]

/-- How a poll goes on a stream that begins with a frame and of which `missing` never comes: it
dispatches the frame, or it comes to the end of the stream while the decoder waits for more. -/
inductive Met (Holds : σ → Bytes → Prop) (c : Connection σ) (body more missing s : Bytes) :
    Outcome σ Bool → Prop where
  | took (c' : Connection σ) (events : List Event) (x : Bytes) (hSame : Hears c c')
      (hHolds : Holds c'.transport x) (hAhead : c'.decoder.Ahead (x ++ missing) more)
      (hQuiet : deliveries events = []) :
      Met Holds c body more missing s ((c'.dispatch body).after events)
  | lost (c' : Connection σ) (events : List Event) (d : Frame.Decoder) (hSame : Hears c c')
      (hWaiting : d.next.1 = .ok none) (hAhead : d.Ahead missing s)
      (hQuiet : deliveries events = []) :
      Met Holds c body more missing s ((c'.closeFor .connectionLost).after events)

theorem Met.after {body more missing s : Bytes} {o : Outcome σ Bool} {events : List Event}
    (h : Met Holds c' body more missing s o) (hSame : Hears c c')
    (hQuiet : deliveries events = []) : Met Holds c body more missing s (o.after events) := by
  cases h with
  | took c'' later x hSame' hHolds hAhead hLater =>
      rw [Outcome.after_after]
      exact .took c'' _ x (hSame.trans hSame') hHolds hAhead
        (deliveries_eq_nil_append hQuiet hLater)
  | lost c'' later d hSame' hWaiting hAhead hLater =>
      rw [Outcome.after_after]
      exact .lost c'' _ d (hSame.trans hSame') hWaiting hAhead
        (deliveries_eq_nil_append hQuiet hLater)

/-- A poll needs no more rounds than there are bytes to come, and one more. -/
theorem Polling.met {n : Nat} (hHands : HandsOver n Holds) {body more missing x : Bytes} {gap : Nat}
    (hSize : body.length ≤ Frame.maxSize) {rounds : Nat} {polled : Bool} {o : Outcome σ Bool}
    (h : Polling none rounds polled c o) (hChunk : c.readChunk = n) (hHolds : Holds c.transport x)
    (hRounds : x.length < rounds)
    (hAhead : c.decoder.Ahead (x ++ missing)
      (List.replicate gap Bytes.space ++ (Frame.encode body ++ more))) :
    Met Holds c body more missing (List.replicate gap Bytes.space ++ (Frame.encode body ++ more))
      o := by
  have hAsked := Frame.Decoder.next_of_frame hAhead hSize
  induction h generalizing x with
  | stalled => omega
  | fault rounds polled c f hNext =>
      rcases hAsked with ⟨hWaits, -⟩ | ⟨hTakes, -⟩
      · cases hNext.symm.trans hWaits
      · cases hNext.symm.trans hTakes
  | body rounds polled c body' hNext =>
      rcases hAsked with ⟨hWaits, -⟩ | ⟨hTakes, hLeft⟩
      · cases hNext.symm.trans hWaits
      · obtain rfl : body' = body := by simpa using hNext.symm.trans hTakes
        exact .took _ [] x ⟨rfl, rfl, rfl, rfl⟩ hHolds hLeft rfl
  | late rounds polled c t hNext hLooks => cases hLooks.of_none.1
  | failed rounds polled c t t' e hNext hLooks hRead =>
      obtain ⟨-, rfl⟩ := hLooks.of_none
      subst hChunk
      -- a read fails only once the transport holds nothing, and the decoder waits for more
      by_cases hOver : x = []
      · rw [hOver] at hHolds hAhead
        obtain ⟨e', hAnswer, hKind⟩ := hHands.atEnd hHolds
        obtain rfl : e' = e := Except.error.inj (hAnswer.symm.trans (congrArg Prod.fst hRead))
        rw [giveUpRead, if_pos hKind]
        exact .lost _ _ c.decoder ⟨rfl, rfl, rfl, rfl⟩ hNext hAhead rfl
      · obtain ⟨chunk, rest, -, -, hAnswer, -⟩ := hHands.piece hHolds hOver
        cases hAnswer.symm.trans (congrArg Prod.fst hRead)
  | more rounds polled c t t' chunk o hNext hLooks hRead rest ih =>
      obtain ⟨-, rfl⟩ := hLooks.of_none
      subst hChunk
      by_cases hOver : x = []
      · rw [hOver] at hHolds
        obtain ⟨e, hAnswer, -⟩ := hHands.atEnd hHolds
        cases hAnswer.symm.trans (congrArg Prod.fst hRead)
      · obtain ⟨chunk', x', rfl, hSome, hAnswer, hRest⟩ := hHands.piece hHolds hOver
        obtain rfl : chunk' = chunk := Except.ok.inj (hAnswer.symm.trans (congrArg Prod.fst hRead))
        rw [hRead] at hRest
        rcases hAsked with ⟨-, hLeft⟩ | ⟨hTakes, -⟩
        · have hPos := List.length_pos_iff.2 hSome
          rw [List.length_append] at hRounds
          rw [List.append_assoc] at hLeft
          have hPushed := Frame.Decoder.ahead_push.2 hLeft
          exact (ih rfl hRest (by omega) hPushed (Frame.Decoder.next_of_frame hPushed hSize)).after
            ⟨rfl, rfl, rfl, rfl⟩ rfl
        · cases hNext.symm.trans hTakes

theorem check_met (hHands : HandsOver c.readChunk Holds) (hOpen : c.closed = false)
    {body more missing x : Bytes} {gap : Nat} (hSize : body.length ≤ Frame.maxSize)
    (hHolds : Holds c.transport x)
    (hAhead : c.decoder.Ahead (x ++ missing)
      (List.replicate gap Bytes.space ++ (Frame.encode body ++ more))) :
    Met Holds c body more missing (List.replicate gap Bytes.space ++ (Frame.encode body ++ more))
      (c.check none) := by
  have hLooked := hHands.look hHolds
  have hPolling := pollWithin_polling none (Transport.patience c.now.2.transport) false c.now.2
  rw [check_of_open hOpen]
  exact (hPolling.met hHands hSize rfl hLooked (hHands.patient hLooked) hAhead).after
    ⟨rfl, rfl, rfl, rfl⟩ rfl

/-- An open connection to which replies are due, one after the other, before its stream ends in
`tail`, the cut-off beginning of a message. -/
structure Expecting (Holds : σ → Bytes → Prop) (c : Connection σ) (replies : List Due)
    (last : Spaced) (tail : Bytes) : Prop where
  isOpen : c.closed = false
  orderly : c.Orderly
  gentle : c.Gentle
  hands : HandsOver c.readChunk Holds
  arrives : ∃ s, Holds c.transport s ∧
    c.decoder.Ahead s (stream (replies.map Due.message) ++ tail)
  cut : CutShort (replies.map Due.message) last tail
  waits : ∀ d ∈ replies, (d.id, d.recipient) ∈ c.pending
  distinct : (replies.map Due.id).Nodup

variable {replies : List Due} {last : Spaced} {tail : Bytes} {d : Due}

omit [Transport σ] in
/-- A reply to a request that waits runs its callback. -/
theorem dispatch_due (hOrderly : c.Orderly) (hGentle : c.Gentle)
    (hWaits : (d.id, d.recipient) ∈ c.pending) :
    c.dispatch d.message.message.body =
      ⟨.returned true, { c with pending := c.pending.erase d.id }, [.deliver d.delivery]⟩ := by
  obtain ⟨n, -, hId⟩ := hOrderly.numbered d.id (Pending.mem_ids hWaits)
  have hReply : Reply.decode? d.message.message.body =
      some ⟨d.id, Reply.readAnswer d.answer⟩ := by
    have hSpace : Bytes.space ∉ Utf8.encode d.id := hId ▸ Decimal.space_notMem_encode_text n
    simp only [Due.message, Message.body, Reply.decode?, Bytes.splitAtSpace?_append hSpace,
      Option.map_some, Utf8.decodeLossy_encode]
  have hLookup := Pending.lookup_of_mem hOrderly.distinct hWaits
  have hAborts : d.recipient.aborts = false := hGentle _ hWaits
  simp [dispatch, hReply, hLookup, Recipient.allow, hAborts, Due.delivery]

/-- The other replies are still due when the first one has been handed out. -/
theorem waits_erase {p : Pending} (hWaits : ∀ d' ∈ d :: replies, (d'.id, d'.recipient) ∈ p)
    (hDistinct : ((d :: replies).map Due.id).Nodup) :
    ∀ d' ∈ replies, (d'.id, d'.recipient) ∈ p.erase d.id := by
  intro d' hd'
  have hNe : d'.id ≠ d.id := by
    intro hSameId
    exact (List.nodup_cons.1 hDistinct).1 (hSameId ▸ List.mem_map_of_mem hd')
  have hMem := hWaits d' (List.mem_cons_of_mem _ hd')
  exact List.mem_filter.2 ⟨hMem, by simpa using hNe⟩

/-- The next check hands out the next reply. -/
theorem Expecting.reply (h : Expecting Holds c (d :: replies) last tail) :
    (c.check none).ending = .returned true ∧ deliveries (c.check none).trace = [d.delivery] ∧
      (c.check none).connection.pending = c.pending.erase d.id ∧
      Expecting Holds (c.check none).connection replies last tail := by
  obtain ⟨s, hHolds, hAhead⟩ := h.arrives
  rw [List.map_cons, stream_cons_append, ← List.append_nil s] at hAhead
  have hSize := h.cut.sizes _ (List.mem_cons_self ..)
  have hWaits := h.waits d (List.mem_cons_self ..)
  have hCourse := (c.check_follows none).course
  have hOrderly := hCourse.orderly h.orderly
  have hGentle := (hCourse.gentle h.gentle fun t ht => absurd ht List.not_mem_nil).2
  have hMet := check_met h.hands h.isOpen hSize hHolds hAhead
  generalize c.check none = o at hMet hOrderly hGentle ⊢
  cases hMet with
  | lost c' events d' hSame hWaiting hStream hQuiet =>
      -- the whole frame is there, so a decoder does not wait
      rw [Frame.Decoder.next_of_arrived hStream hSize] at hWaiting
      cases hWaiting
  | took c' events x hSame hHolds' hStream hQuiet =>
      have hOrderly' := h.orderly.of_eq hSame.pending hSame.nextId hSame.closed
      have hGentle' := h.gentle.of_eq hSame.pending
      have hDispatch := dispatch_due hOrderly' hGentle' (d := d) (hSame.pending ▸ hWaits)
      rw [hDispatch] at hOrderly hGentle ⊢
      refine ⟨rfl, ?_, congrArg (Pending.erase · d.id) hSame.pending, ?_⟩
      · change deliveries (events ++ [.deliver d.delivery]) = [d.delivery]
        rw [deliveries_append, hQuiet]
        rfl
      · refine ⟨hSame.closed.trans h.isOpen, hOrderly, hGentle, ?_, ⟨x, hHolds', ?_⟩, h.cut.of_cons,
          ?_, ?_⟩
        · exact hSame.readChunk ▸ h.hands
        · rwa [List.append_nil] at hStream
        · change ∀ d' ∈ replies, (d'.id, d'.recipient) ∈ c'.pending.erase d.id
          rw [hSame.pending]
          exact waits_erase h.waits h.distinct
        · exact (List.nodup_cons.1 h.distinct).2

/-- With no more replies to come, the next check finds the end of the stream and gives up everybody
who still waits. -/
theorem Expecting.lost (h : Expecting Holds c [] last tail) :
    (c.check none).ending = .failed .connectionLost ∧
      (c.check none).connection.closed = true ∧
      deliveries (c.check none).trace =
        c.pending.inOrder.map fun w => ⟨some w.1, w.2, .connectionClosed⟩ := by
  obtain ⟨s, hHolds, hAhead⟩ := h.arrives
  obtain ⟨missing, hMissing⟩ := h.cut.begins
  have hSome : missing ≠ [] := by
    rintro rfl
    exact h.cut.cut (by rwa [List.append_nil] at hMissing)
  have hLast : tail ++ missing = List.replicate last.gap Bytes.space ++
      (Frame.encode last.message.body ++ []) := by
    rw [hMissing, Spaced.bytes, Message.encode_eq, List.append_nil]
  have hWhole : c.decoder.Ahead (s ++ missing) (tail ++ missing) :=
    Frame.Decoder.Ahead.append hAhead missing
  rw [hLast] at hWhole
  have hMet := check_met h.hands h.isOpen h.cut.size hHolds hWhole
  generalize c.check none = o at hMet ⊢
  cases hMet with
  | took c' events x hSame hHolds' hStream hQuiet =>
      -- what is missing of the frame cannot have come
      have hShort := hStream.length_le
      rw [List.length_nil, Nat.le_zero, List.length_eq_zero_iff] at hShort
      exact absurd (List.append_eq_nil_iff.1 hShort).2 hSome
  | lost c' events d hSame hWaiting hStream hQuiet =>
      obtain ⟨hEnding, hDeliveries⟩ :
          (c'.closeFor .connectionLost : Outcome σ Bool).ending = _ ∧ _ :=
        closeFor_of_gentle (hSame.closed.trans h.isOpen) (h.gentle.of_eq hSame.pending)
      refine ⟨hEnding, closeFor_closed c' .connectionLost, ?_⟩
      change deliveries (events ++ _) = _
      rw [deliveries_append, hQuiet, hDeliveries, hSame.pending]
      rfl

/-- As many checks as there are replies hand these out, one after the other. -/
theorem Expecting.run (h : Expecting Holds c replies last tail) :
    let checks := List.replicate replies.length (.call (.check none))
    (c.outcomes checks).map (fun o => (o.ending, deliveries o.trace)) =
        replies.map (fun d => (.returned (.dispatched true), [d.delivery])) ∧
      (c.afterwards checks).pending = c.pending.filter (·.1 ∉ replies.map Due.id) ∧
      Expecting Holds (c.afterwards checks) [] last tail := by
  induction replies generalizing c with
  | nil => exact ⟨rfl, by simp [afterwards], h⟩
  | cons d replies ih =>
      intro checks
      obtain ⟨hEnding, hDeliveries, hPending, hRest⟩ := h.reply
      obtain ⟨hOutcomes, hPending', hEnd⟩ := ih hRest
      refine ⟨?_, ?_, hEnd⟩
      · have hFirst : (c.perform (.check none)).ending = .returned (.dispatched true) := by
          change (c.check none).ending.map Returned.dispatched = _
          rw [hEnding]
          rfl
        rw [List.map_cons, ← hOutcomes, ← hFirst, ← hDeliveries]
        rfl
      · change ((c.check none).connection.afterwards _).pending = _
        rw [hPending', hPending, Pending.erase, List.filter_filter]
        apply List.filter_congr
        intro w hw
        simp [Bool.and_comm, not_or]

/-- An open connection, reached in any way without aborting callbacks, over any transport that hands
its bytes over in pieces that are not empty and then ends. If what the decoder holds and what the
transport hands over are replies to different requests that wait, and then at most the beginning of
one more message, then as many checks hand the replies out in their order, each to its request. The
check after them reports the loss, closes the connection and answers every other request that waits.
After that no check finds anything or calls the transport. -/
theorem hang_up_loses_no_reply (transport : σ) (readChunk : Nat) (steps : List (Step σ))
    (hReached : (withReadChunk readChunk transport).afterwards steps = c)
    (hCalm : ∀ step ∈ steps, step.Calm) (hOpen : c.closed = false)
    (hHands : HandsOver c.readChunk Holds) (s : Bytes) (hHolds : Holds c.transport s)
    (replies : List Due) (last : Spaced) (tail : Bytes)
    (hStream : c.decoder.unread ++ s = stream (replies.map Due.message) ++ tail)
    (hCut : CutShort (replies.map Due.message) last tail)
    (hWaits : ∀ d ∈ replies, (d.id, d.recipient) ∈ c.pending)
    (hDistinct : (replies.map Due.id).Nodup) :
    let checks := List.replicate replies.length (.call (.check none))
    let others : Pending := c.pending.filter (·.1 ∉ replies.map Due.id)
    let o := (c.afterwards checks).check none
    (c.outcomes checks).map (fun o => (o.ending, deliveries o.trace)) =
        replies.map (fun d => (.returned (.dispatched true), [d.delivery])) ∧
      (o.ending = .failed .connectionLost ∧ o.connection.closed = true ∧
        deliveries o.trace = others.inOrder.map fun w =>
          ⟨some w.1, w.2, .failure ⟨.connectionClosed, "Connection closed"⟩⟩) ∧
      ∀ more limit, let later := (o.connection.afterwards more).check limit
        later.ending = .returned false ∧ later.trace = [] := by
  intro checks others o
  have hAccounts := (withReadChunk_accounts readChunk transport).history hCalm
  rw [hReached] at hAccounts
  have hExpecting : Expecting Holds c replies last tail :=
    ⟨hOpen, hAccounts.orderly, hAccounts.gentle, hHands, ⟨s, hHolds, 0, hStream.symm⟩, hCut, hWaits,
      hDistinct⟩
  obtain ⟨hOutcomes, hPending, hEnd⟩ := hExpecting.run
  obtain ⟨hLost, hClosed, hDeliveries⟩ := hEnd.lost
  rw [hPending, Response.connectionClosed_eq] at hDeliveries
  refine ⟨hOutcomes, ⟨hLost, hClosed, hDeliveries⟩, ?_⟩
  intro more limit
  exact check_of_closed (of_closed hClosed more).1 limit

/-- Three requests over a loopback that hands out two bytes at a time. The count of a reply has been
read when its rest arrives, with another reply and the beginning of a third, and the server hangs
up. -/
def hungUpEarly : List (Step Loopback) :=
  [.call (.send .get "a" [] ⟨"a", false⟩), .call (.send .get "b" [] ⟨"b", false⟩),
    .call (.send .get "c" [] ⟨"c", false⟩), .meanwhile (·.push (Utf8.encode "6 1")),
    .call (.check (some ⟨0⟩)), .meanwhile (·.push (Utf8.encode " Syes5 0 Sno10 2 Sper")),
    .meanwhile (·.inPiecesOf 2), .meanwhile (·.hangUp)]

/-- One request over a stream whose reading end yields the reply and one more byte, and ends. -/
def endedStream : List (Step (Stream Rehearsal)) :=
  [.call (.send .get "a" [] ⟨"a", false⟩),
    .meanwhile fun t => { t with ends := { t.ends with
      feed := [.bytes (Utf8.encode "5 0 Sno7"), .endOfStream] } }]

/-- The reply whose count was read and the one after it are handed out, and the third request is
given up; over the other stream the reply is handed out before the end is seen. -/
theorem hang_up_loses_no_reply_hungUpEarly :
    (let c := (withReadChunk 4 Loopback.empty).afterwards hungUpEarly
      let checks := List.replicate 2 (.call (.check none))
      let o := (c.afterwards checks).check none
      c.decoder = ⟨Utf8.encode "1", some 6⟩ ∧
        (c.outcomes checks).map (fun o => (o.ending, deliveries o.trace)) =
          [(.returned (.dispatched true), [⟨some "1", .callback ⟨"b", false⟩, .text "yes"⟩]),
            (.returned (.dispatched true), [⟨some "0", .callback ⟨"a", false⟩, .text "no"⟩])] ∧
        o.ending = .failed .connectionLost ∧
        deliveries o.trace = [⟨some "2", .callback ⟨"c", false⟩,
          .failure ⟨.connectionClosed, "Connection closed"⟩⟩]) ∧
    (let c := (withReadChunk 4 ({ ends := {}, unblocks := false } : Stream Rehearsal)).afterwards
        endedStream
      let o := (c.afterwards [.call (.check none)]).check none
      (c.outcomes [.call (.check none)]).map (fun o => (o.ending, deliveries o.trace)) =
          [(.returned (.dispatched true), [⟨some "0", .callback ⟨"a", false⟩, .text "no"⟩])] ∧
        o.ending = .failed .connectionLost) := by
  constructor
  · intro c checks o
    let replies : List Due :=
      [⟨0, "1", .callback ⟨"b", false⟩, Utf8.encode "Syes"⟩,
        ⟨0, "0", .callback ⟨"a", false⟩, Utf8.encode "Sno"⟩]
    have hPending : c.pending = [("2", .callback ⟨"c", false⟩), ("1", .callback ⟨"b", false⟩),
        ("0", .callback ⟨"a", false⟩)] := by decide +kernel
    have hPieces : c.transport.pieceSize = some 2 := by decide +kernel
    have hHolds : c.transport.EndsAfter (Utf8.encode " Syes5 0 Sno10 2 Sper") := by
      refine ⟨by decide +kernel, by decide +kernel, ?_⟩
      intro n hn
      obtain rfl := Option.some.inj (hPieces.symm.trans hn)
      decide
    have hStream : c.decoder.unread ++ Utf8.encode " Syes5 0 Sno10 2 Sper" =
        stream (replies.map Due.message) ++ Utf8.encode "10 2 Sper" := by decide +kernel
    have hCut : CutShort (replies.map Due.message) ⟨0, .reply "2" (Utf8.encode "Sperhaps")⟩
        (Utf8.encode "10 2 Sper") :=
      ⟨by decide +kernel, by decide +kernel, by decide +kernel, by decide +kernel⟩
    have hWaits : ∀ d ∈ replies, (d.id, d.recipient) ∈ c.pending := by
      rw [hPending]
      simp [replies]
    have hOpen : c.closed = false := by decide +kernel
    have hChunk : 1 ≤ c.readChunk := by decide +kernel
    obtain ⟨hOutcomes, ⟨hLost, -, hOthers⟩, -⟩ := hang_up_loses_no_reply Loopback.empty 4
      hungUpEarly rfl (by simp [hungUpEarly, Step.Calm]) hOpen (Loopback.handsOver hChunk) _
      hHolds replies _ _ hStream hCut hWaits (by decide +kernel)
    refine ⟨by decide +kernel, hOutcomes.trans (by with_unfolding_all rfl), hLost, ?_⟩
    rw [hPending] at hOthers
    exact hOthers.trans (by with_unfolding_all rfl)
  · intro c o
    let replies : List Due := [⟨0, "0", .callback ⟨"a", false⟩, Utf8.encode "Sno"⟩]
    have hPending : c.pending = [("0", .callback ⟨"a", false⟩)] := by decide +kernel
    have hEnd : Arrival.last? (Ends.arrivals c.transport.ends).1 = some .endOfStream := by rfl
    have hHolds : c.transport.EndsAfter (Utf8.encode "5 0 Sno7") :=
      Stream.endsAfter_of_fresh (by with_unfolding_all rfl) hEnd rfl
    have hStream : c.decoder.unread ++ Utf8.encode "5 0 Sno7" =
        stream (replies.map Due.message) ++ Utf8.encode "7" := by decide +kernel
    have hCut : CutShort (replies.map Due.message) ⟨0, .reply "1" (Utf8.encode "Sever")⟩
        (Utf8.encode "7") :=
      ⟨by decide +kernel, by decide +kernel, by decide +kernel, by decide +kernel⟩
    have hWaits : ∀ d ∈ replies, (d.id, d.recipient) ∈ c.pending := by
      rw [hPending]
      simp [replies]
    have hOpen : c.closed = false := by decide +kernel
    have hChunk : 1 ≤ c.readChunk := by decide +kernel
    obtain ⟨hOutcomes, ⟨hLost, -, -⟩, -⟩ := hang_up_loses_no_reply _ 4 endedStream rfl
      (by simp [endedStream, Step.Calm]) hOpen (Stream.handsOver hChunk) _ hHolds replies _ _
      hStream hCut hWaits (by decide +kernel)
    exact ⟨hOutcomes.trans (by with_unfolding_all rfl), hLost⟩

end Connection

end DocWire

import DocWire.Proofs.Connection.Waits

/-! The table keeps no order, so closing sorts it by the texts of the numbers. That is the order of
the numbers, which are given out one after the other. -/

namespace DocWire

/-- Where both have a number, the first has the smaller one. -/
def Ticket.Precedes (a b : Ticket) : Prop :=
  ∀ m n, a.id = some (Decimal.text m) → b.id = some (Decimal.text n) → m < n

namespace Connection

variable {σ : Type} {c c' : Connection σ} {tickets taken : List Ticket} {events : List Event}

/-- Sorted by the texts of their ids, the requests of a table are in the order of their numbers. -/
theorem Orderly.precedes (h : c.Orderly) :
    (Pending.tickets c.pending.inOrder).Pairwise Ticket.Precedes := by
  have hDistinct : (Pending.ids c.pending.inOrder).Nodup :=
    (c.pending.inOrder_perm.map _).nodup_iff.2 h.distinct
  apply List.pairwise_map.2
  apply (c.pending.inOrder_pairwise.and (List.pairwise_map.1 hDistinct)).imp
  rintro v w ⟨hSorted, hNe⟩ m n hm hn
  have hv : v.1 = Decimal.text m := Option.some.inj hm
  have hw : w.1 = Decimal.text n := Option.some.inj hn
  rw [hv, hw, Pending.idPrecedes_text] at hSorted
  apply Nat.lt_of_le_of_ne (of_decide_eq_true hSorted)
  rintro rfl
  exact hNe (hv.trans hw.symm)

/-- Requests are taken on under growing numbers. -/
theorem Accounts.precedes (h : Accounts c taken events) : taken.Pairwise Ticket.Precedes := by
  have hNumbers : (taken.filterMap Ticket.id).Pairwise fun id id' =>
      ∀ m n, id = Decimal.text m → id' = Decimal.text n → m < n := by
    rw [h.numbers]
    apply List.pairwise_map.2
    apply List.pairwise_lt_range.imp
    intro a b hLess m n hm hn
    rwa [← Decimal.text_injective hm, ← Decimal.text_injective hn]
  apply (List.pairwise_filterMap.1 hNumbers).imp
  intro a b hLess m n hm hn
  exact hLess _ hm _ hn m n rfl rfl

theorem Orderly.exists_number (h : c.Orderly) {t : Ticket}
    (ht : t ∈ Pending.tickets c.pending.inOrder) : ∃ n, t.id = some (Decimal.text n) := by
  obtain ⟨w, hw, rfl⟩ := List.mem_map.1 ht
  obtain ⟨n, -, hText⟩ := h.numbered w.1 (Pending.mem_ids (c.pending.inOrder_perm.mem_iff.1 hw))
  exact ⟨n, congrArg some hText⟩

/-- Who waits is who was taken on and not answered. -/
theorem Accounts.waiting_perm (h : Accounts c taken events) :
    c.waiting.Perm (taken.filter (· ∉ answered events)) := by
  have hBalance := h.balance.filter (· ∉ answered events)
  have hWaiting : c.waiting.filter (· ∉ answered events) = c.waiting := by
    apply List.filter_eq_self.2
    intro t ht
    obtain ⟨w, hw, rfl⟩ := List.mem_map.1 ht
    exact decide_eq_true (h.waits_iff.1 hw).2
  have hAnswered : (answered events).filter (· ∉ answered events) = [] := by
    apply List.filter_eq_nil_iff.2
    intro t ht
    simpa using ht
  rwa [List.filter_append, hWaiting, hAnswered, List.append_nil] at hBalance

/-- The table in order is who was taken on and not answered, in the order of taking on. -/
theorem Accounts.inOrder (h : Accounts c taken events) :
    Pending.tickets c.pending.inOrder = taken.filter (· ∉ answered events) := by
  have hPerm := (Pending.tickets_perm c.pending.inOrder_perm).trans h.waiting_perm
  refine hPerm.eq_of_pairwise ?_ h.orderly.precedes (h.precedes.filter _)
  intro a b ha hb hab hba
  obtain ⟨m, hm⟩ := h.orderly.exists_number ha
  obtain ⟨n, hn⟩ := h.orderly.exists_number (hPerm.mem_iff.2 hb)
  exact absurd (hab m n hm hn) (Nat.lt_asymm (hba n m hn hm))

/-- The table may keep its requests in any order. -/
theorem Accounts.reorder (h : Accounts c taken events) {p : Pending} (hTable : p.Perm c.pending) :
    Accounts { c with pending := p } taken events := by
  have hIds : p.ids.Perm c.pending.ids := hTable.map _
  refine ⟨⟨hIds.nodup_iff.2 h.orderly.distinct, ?_, ?_⟩, ?_, ?_, h.numbers⟩
  · intro id hMem
    exact h.orderly.numbered id (hIds.mem_iff.1 hMem)
  · intro hClosed
    rw [h.orderly.atRest hClosed] at hTable
    exact hTable.eq_nil
  · intro w hw
    exact h.gentle w (hTable.mem_iff.1 hw)
  · exact ((Pending.tickets_perm hTable).append_right _).trans h.balance

/-- The stream has met its end, or a write has failed. -/
def Breaks (events : List Event) : Prop :=
  events.any Event.meetsEnd = true ∨ ∃ data e, .write data (.error e) ∈ events

theorem breaks_of_silent (h : written events = []) :
    Breaks events ↔ events.any Event.meetsEnd = true :=
  or_iff_left fun ⟨_, _, hMem⟩ => write_notMem h hMem

theorem Sending.closed_iff {target : String} {r : Recipient} {o : Outcome σ Unit}
    (h : Sending c target r o) (hOpen : c.closed = false) :
    o.connection.closed = true ↔ Breaks o.trace := by
  cases h with
  | refused => simp [Breaks, hOpen]
  | written t data => simp [Breaks, hOpen, requested, Event.meetsEnd]
  | unwritten t data e answer => exact iff_of_true rfl (Or.inr ⟨data, e, List.mem_cons_self ..⟩)

/-- After a write that fails, its own request is answered first and then the connection is
closed. -/
theorem Sending.of_failed_write {target : String} {r : Recipient} {o : Outcome σ Unit}
    (h : Sending c target r o) {data : Bytes} {e : IoError}
    (hFails : .write data (.error e) ∈ o.trace) :
    ∃ answer, o.trace = .write data (.error e) ::
      .deliver ⟨some (Decimal.text c.nextId), r, writeFailure e⟩ :: .close answer ::
        c.pending.inOrder.map fun w => .deliver ⟨some w.1, w.2, .connectionClosed⟩ := by
  cases h with
  | refused => cases hFails
  | written t data' => simp at hFails
  | unwritten t data' e' answer =>
      have hSame : data = data' ∧ e = e' := by simpa using hFails
      obtain ⟨rfl, rfl⟩ := hSame
      exact ⟨answer, rfl⟩

theorem Ended.closed_iff {deadline : Option Instant} {o : Outcome σ Bool} (h : Ended deadline c o)
    (hOpen : c.closed = false) :
    o.connection.closed = true ↔ o.trace.any Event.meetsEnd = true := by
  rw [← h.connectionLost_iff]
  constructor
  · intro hClosed
    by_contra hLost
    have hSame : o.connection.closed = c.closed := by
      by_cases hReturned : o.ending = .returned true
      · cases h with
        | dispatched => rfl
        | _ => cases hReturned
      · exact (h.untouched hReturned hLost).closed
    rw [hSame, hOpen] at hClosed
    cases hClosed
  · exact fun hLost => (h.of_connectionLost hLost).1

theorem Awaited.closed_iff {n : Nat} {o : Outcome σ Response} (h : Awaited c n o) :
    o.connection.closed = true ↔ o.trace.any Event.meetsEnd = true := by
  cases h with
  | answered c' events bodies answer others _ _ _ _ _ hOpen hGoesOn => simp [hOpen, hGoesOn]
  | waits ending c' events _ _ hOpen hGoesOn => simp [hOpen, hGoesOn]
  | lost c' events hClosed hNobody hEnd => exact iff_of_true hClosed hEnd

variable [Transport σ]

theorem Waited.closed_iff {target : String} {o : Outcome σ Response} (h : Waited c target o)
    (hOpen : c.closed = false) : o.connection.closed = true ↔ Breaks o.trace := by
  cases h with
  | unsent o e hEnding hSending => exact hSending.closed_iff hOpen
  | sent t data o hSilent hAwaited =>
      rw [Breaks, or_iff_left fun ⟨data', e, hMem⟩ => not_failed_of_silent hSilent hMem]
      exact hAwaited.closed_iff

theorem Waited.of_failed_write {target : String} {o : Outcome σ Response} (h : Waited c target o)
    {data : Bytes} {e : IoError} (hFails : .write data (.error e) ∈ o.trace) :
    ∃ answer, o.trace = .write data (.error e) ::
      .deliver ⟨some (Decimal.text c.nextId), .caller, writeFailure e⟩ :: .close answer ::
        c.pending.inOrder.map fun w => .deliver ⟨some w.1, w.2, .connectionClosed⟩ := by
  cases h with
  | unsent o e hEnding hSending => exact hSending.of_failed_write hFails
  | sent t data' o hSilent => exact absurd hFails (not_failed_of_silent hSilent)

/-- Besides giving it up, an open connection is closed by the end of the stream and by a write that
fails, and by nothing else. -/
theorem perform_closed_iff (hOpen : c.closed = false) (hOrderly : c.Orderly) (hGentle : c.Gentle)
    {what : Call} (hCalm : (Step.call what : Step σ).Calm) :
    (c.perform what).connection.closed = true ↔
      what = .close ∨ what = .release ∨ Breaks (c.perform what).trace := by
  cases what with
  | close => exact iff_of_true c.close_closed (Or.inl rfl)
  | release => exact iff_of_true c.release_closed (Or.inr (Or.inl rfl))
  | send method target payload k =>
      have hSending := sendTo_sending (r := .callback k) hOpen hOrderly hGentle hCalm method target
        payload
      have hIff : (c.perform (.send method target payload k)).connection.closed = true ↔
          Breaks (c.perform (.send method target payload k)).trace := hSending.closed_iff hOpen
      simp [hIff]
  | sendWait method target payload limit =>
      have hWaited := sendWait_waited hOpen hOrderly hGentle method target payload limit
      have hIff : (c.perform (.sendWait method target payload limit)).connection.closed = true ↔
          Breaks (c.perform (.sendWait method target payload limit)).trace :=
        hWaited.closed_iff hOpen
      simp [hIff]
  | check limit =>
      have hSilent : written (c.perform (.check limit)).trace = [] :=
        (c.check_follows limit).course.written_eq_nil
      have hEnded := poll_ended (c := c.now.2) hOpen hGentle (Instant.deadline c.now.1 limit)
      have hIff : (c.perform (.check limit)).connection.closed = true ↔
          (c.perform (.check limit)).trace.any Event.meetsEnd = true := hEnded.closed_iff hOpen
      simp [hIff, breaks_of_silent hSilent]

theorem perform_of_failed_write (hOpen : c.closed = false) (hOrderly : c.Orderly)
    (hGentle : c.Gentle) {what : Call} (hCalm : (Step.call what : Step σ).Calm) {data : Bytes}
    {e : IoError} (hFails : .write data (.error e) ∈ (c.perform what).trace) :
    ∃ r answer, what.recipient? = some r ∧ (c.perform what).trace = .write data (.error e) ::
      .deliver ⟨some (Decimal.text c.nextId), r, writeFailure e⟩ :: .close answer ::
        c.pending.inOrder.map fun w => .deliver ⟨some w.1, w.2, .connectionClosed⟩ := by
  have hSilent (hNobody : what.recipient? = none) : False := by
    have hCourse := (c.perform_follows what).course
    rw [c.takenOn_of_no_recipient hNobody] at hCourse
    exact write_notMem hCourse.written_eq_nil hFails
  cases what with
  | send method target payload k =>
      have hSending := sendTo_sending (r := .callback k) hOpen hOrderly hGentle hCalm method target
        payload
      exact ⟨_, (hSending.of_failed_write hFails).imp fun answer hTrace => ⟨rfl, hTrace⟩⟩
  | sendWait method target payload limit =>
      have hWaited := sendWait_waited hOpen hOrderly hGentle method target payload limit
      exact ⟨_, (hWaited.of_failed_write hFails).imp fun answer hTrace => ⟨rfl, hTrace⟩⟩
  | _ => exact (hSilent rfl).elim

/-- The move that closes an open connection fails who waits, in the order of the table. -/
theorem Move.closing (move : Move c tickets events c') (hOpen : c.closed = false)
    (hClosed : c'.closed = true) :
    tickets = [] ∧ c'.pending = [] ∧
      ∃ answer, events = .close answer :: (deliverAll .connectionClosed c.pending.inOrder).1 := by
  have hStill {d : Connection σ} (hSame : d.closed = c.closed) : d.closed ≠ true := by
    rw [hSame, hOpen]
    exact Bool.false_ne_true
  cases move with
  | close => exact ⟨rfl, rfl, _, rfl⟩
  | read => exact absurd hClosed (hStill (received_closed ..))
  | refuse r hRefused => exact absurd hRefused (hStill rfl)
  | _ => exact absurd hClosed (hStill rfl)

theorem Move.eq_nil_of_closed (move : Move c tickets events c') (hClosed : c.closed = true)
    (hNobody : c.pending = []) (hIds : ∀ t ∈ tickets, t.id ≠ none) :
    tickets = [] ∧ events = [] := by
  cases move with
  | look => exact ⟨rfl, rfl⟩
  | refuse r => exact absurd rfl (hIds _ (List.mem_singleton_self _))
  | hand id r response hWaits =>
      rw [hNobody] at hWaits
      cases hWaits
  | ask hOpen => rw [hOpen] at hClosed; cases hClosed
  | read deadline hOpen => rw [hOpen] at hClosed; cases hClosed
  | write request r hOpen => rw [hOpen] at hClosed; cases hClosed
  | close hOpen => rw [hOpen] at hClosed; cases hClosed

/-- On a closed connection, where nobody waits, a course that takes on no request under a number
does nothing. -/
theorem Course.eq_nil_of_closed (course : Course c tickets events c') (hClosed : c.closed = true)
    (hNobody : c.pending = []) (hIds : ∀ t ∈ tickets, t.id ≠ none) :
    tickets = [] ∧ events = [] := by
  induction course with
  | stay c => exact ⟨rfl, rfl⟩
  | last move => exact move.eq_nil_of_closed hClosed hNobody hIds
  | step move calm rest ih =>
      obtain ⟨hFirst, hRest⟩ := List.forall_mem_append.1 hIds
      obtain ⟨rfl, rfl⟩ := move.eq_nil_of_closed hClosed hNobody hFirst
      have hSame := (move.unchanged hClosed hNobody).2.1
      exact ih (move.of_closed hClosed).1 (hSame.trans hNobody) hRest

/-- A course that closes an open connection ends with failing who waits then, in the order of the
table. -/
theorem Course.closing (course : Course c tickets events c') (hOpen : c.closed = false)
    (hClosed : c'.closed = true) (hIds : ∀ t ∈ tickets, t.id ≠ none) (hCalm : Calm events) :
    ∃ (m : Connection σ) (before : List Event) (answer : Except IoError Unit),
      Course c tickets before m ∧ events = before ++ .close answer ::
        m.pending.inOrder.map fun w => .deliver ⟨some w.1, w.2, .connectionClosed⟩ := by
  induction course with
  | stay c =>
      rw [hOpen] at hClosed
      cases hClosed
  | @last c _ _ _ move =>
      obtain ⟨rfl, -, answer, rfl⟩ := move.closing hOpen hClosed
      refine ⟨c, [], answer, .stay c, ?_⟩
      rw [deliverAll_of_calm (calm_cons.1 hCalm).2, List.nil_append]
  | @step c middle _ _ _ _ _ move calm rest ih =>
      obtain ⟨-, hRestIds⟩ := List.forall_mem_append.1 hIds
      cases hMiddle : middle.closed with
      | false =>
          obtain ⟨m, before, answer, hCourse, rfl⟩ :=
            ih hMiddle hClosed hRestIds (calm_append.1 hCalm).2
          exact ⟨m, _, answer, .step move calm hCourse, (List.append_assoc ..).symm⟩
      | true =>
          -- the move has closed the connection, and nothing is left to do
          obtain ⟨rfl, hNobody, answer, rfl⟩ := move.closing hOpen hMiddle
          obtain ⟨rfl, rfl⟩ := rest.eq_nil_of_closed hMiddle hNobody hRestIds
          refine ⟨c, [], answer, .stay c, ?_⟩
          rw [deliverAll_of_calm (calm_cons.1 calm).2, List.append_nil, List.nil_append]

theorem takenOn_id (hOpen : c.closed = false) {what : Call} :
    ∀ t ∈ c.takenOn what, t.id ≠ none := by
  intro t ht
  unfold takenOn at ht
  split at ht
  · cases ht
  · obtain ⟨r, -, rfl⟩ := List.mem_map.1 ht
    simp [ticketFor, hOpen]

/-- A call that closes the connection fails whoever was taken on and has not been answered by then,
in the order of taking on. -/
theorem Accounts.closing (h : Accounts c taken events) (hOpen : c.closed = false) {what : Call}
    (hCalm : (Step.call what : Step σ).Calm)
    (hClosed : (c.perform what).connection.closed = true) :
    ∃ before answer, (c.perform what).trace = before ++ .close answer ::
      ((taken ++ c.takenOn what).filter (· ∉ answered (events ++ before))).map fun t =>
        .deliver ⟨t.id, t.recipient, .connectionClosed⟩ := by
  have hCourse := (c.perform_follows what).course
  have hTickets := c.takenOn_calm hCalm
  obtain ⟨hTrace, -⟩ := hCourse.gentle h.gentle hTickets
  obtain ⟨m, before, answer, hBefore, hEvents⟩ :=
    hCourse.closing hOpen hClosed (takenOn_id hOpen) hTrace
  refine ⟨before, answer, ?_⟩
  rw [hEvents, ← (h.course hBefore hTickets).inOrder, Pending.tickets, List.map_map]
  rfl

/-- An open connection, reached in any way without aborting callbacks and over any transport, may
keep its table in any order. A call that brings no aborting callback closes it exactly if it gives
it up, the stream ends or a write fails. Of the requests sent up to and with this call, those that
have not been answered by then fail in the order of sending. Where a write fails, its own request is
answered before that, with the failure of the write, and is not among them. The texts of numbers are
in order exactly if the numbers are. -/
theorem fails_in_the_order_of_sending (transport : σ) (readChunk : Nat) (steps : List (Step σ))
    (hReached : (withReadChunk readChunk transport).afterwards steps = c)
    (hCalm : ∀ step ∈ steps, step.Calm) (hOpen : c.closed = false) (p : Pending)
    (hTable : p.Perm c.pending) (what : Call) (hCall : (Step.call what : Step σ).Calm) :
    let start := withReadChunk readChunk transport
    let c' := { c with pending := p }
    let o := c'.perform what
    let sent := start.accepted steps ++ c'.takenOn what
    let own := Decimal.text c.nextId
    (o.connection.closed = true ↔ what = .close ∨ what = .release ∨
      o.trace.any Event.meetsEnd = true ∨ ∃ data e, .write data (.error e) ∈ o.trace) ∧
    (o.connection.closed = true → ∃ before answer, o.trace = before ++ .close answer ::
      (sent.filter (· ∉ answered (start.traceOf steps ++ before))).map fun t =>
        .deliver ⟨t.id, t.recipient, .failure ⟨.connectionClosed, "Connection closed"⟩⟩) ∧
    (∀ data e, .write data (.error e) ∈ o.trace → ∃ r answer rest, what.recipient? = some r ∧
      o.trace = .write data (.error e) ::
        .deliver ⟨some own, r, .failure ⟨.transport, "Failed to send request: " ++ e.message⟩⟩ ::
        .close answer :: rest ∧
      ∀ d ∈ deliveries rest, d.id ≠ some own) ∧
    ∀ m n, Pending.idPrecedes (Decimal.text m) (Decimal.text n) = true ↔ m ≤ n := by
  intro start c' o sent own
  have hAccounts := (withReadChunk_accounts readChunk transport).history hCalm
  rw [hReached] at hAccounts
  have hAny : Accounts c' _ _ := hAccounts.reorder hTable
  have hStill : c'.closed = false := hOpen
  simp only [← Response.connectionClosed_eq, ← writeFailure_eq]
  refine ⟨perform_closed_iff hStill hAny.orderly hAny.gentle hCall, hAny.closing hStill hCall, ?_,
    fun m n => by simp [Pending.idPrecedes_text]⟩
  intro data e hFails
  obtain ⟨r, answer, hRecipient, hTrace⟩ :=
    perform_of_failed_write hStill hAny.orderly hAny.gentle hCall hFails
  refine ⟨r, answer, _, hRecipient, hTrace, ?_⟩
  rw [deliveries_map_deliver]
  intro d hd hOwn
  obtain ⟨w, hw, rfl⟩ := List.mem_map.1 hd
  have hWaits := Pending.mem_ids (c'.pending.inOrder_perm.mem_iff.1 hw)
  rw [Option.some.inj hOwn] at hWaits
  exact hAny.orderly.fresh hWaits

/-- Eleven requests, so that the numbers of some have one digit and that of one has two. -/
def elevenSends : List (Step Script) :=
  (List.range 11).map fun n => .call (.send .get "a" [] ⟨Decimal.text n, false⟩)

/-- A failure to write what comes after eleven requests. -/
def failingTwelfth : Script :=
  { writes := List.replicate 11 none ++ [some ⟨.brokenPipe, "broken pipe"⟩] }

/-- The connection after the eleven requests, with its table turned round. -/
def elevenWaiting : Connection Script :=
  { (withReadChunk 64 failingTwelfth).afterwards elevenSends with
    pending := (List.range 11).map fun n => (Decimal.text n, .callback ⟨Decimal.text n, false⟩) }

theorem elevenWaiting_inOrder : elevenWaiting.pending.inOrder = elevenWaiting.pending :=
  List.mergeSort_of_pairwise (by decide +kernel)

/-- The twelfth request cannot be written and is answered first. The others follow in the order of
sending. -/
theorem fails_in_the_order_of_sending_failingTwelfth :
    let start := withReadChunk 64 failingTwelfth
    let last : Call := .send .get "a" [] ⟨"last", false⟩
    let o := elevenWaiting.perform last
    (o.connection.closed = true ∧ ∃ before answer, o.trace = before ++ .close answer ::
      ((start.accepted elevenSends ++ elevenWaiting.takenOn last).filter
        (· ∉ answered (start.traceOf elevenSends ++ before))).map fun t =>
          .deliver ⟨t.id, t.recipient, .failure ⟨.connectionClosed, "Connection closed"⟩⟩) ∧
    deliveries o.trace =
      ⟨some "11", .callback ⟨"last", false⟩,
        .failure ⟨.transport, "Failed to send request: broken pipe"⟩⟩ ::
      (List.range 11).map fun n => ⟨some (Decimal.text n), .callback ⟨Decimal.text n, false⟩,
        .failure ⟨.connectionClosed, "Connection closed"⟩⟩ := by
  intro start last o
  have hCalm : ∀ step ∈ elevenSends, step.Calm := by simp [elevenSends, Step.Calm]
  have hLast : (Step.call last : Step Script).Calm := rfl
  have hTable : elevenWaiting.pending.Perm (start.afterwards elevenSends).pending := by
    have hPending : (start.afterwards elevenSends).pending = elevenWaiting.pending.reverse := by
      decide +kernel
    rw [hPending]
    exact (List.reverse_perm _).symm
  have hOpen : elevenWaiting.closed = false := by decide +kernel
  have hFails : .write (Request.encode ⟨"11", .get, "a", []⟩)
      (.error ⟨.brokenPipe, "broken pipe"⟩) ∈ o.trace :=
    List.mem_of_mem_head? (by with_unfolding_all rfl)
  obtain ⟨hCloses, hOrder, -⟩ := fails_in_the_order_of_sending failingTwelfth 64 elevenSends rfl
    hCalm hOpen elevenWaiting.pending hTable last hLast
  have hClosed : o.connection.closed = true :=
    hCloses.2 (Or.inr (Or.inr (Or.inr ⟨_, _, hFails⟩)))
  have hAccounts : Accounts elevenWaiting _ _ :=
    ((withReadChunk_accounts 64 failingTwelfth).history hCalm).reorder hTable
  obtain ⟨_, answer, ⟨⟩, hTrace⟩ :=
    perform_of_failed_write hOpen hAccounts.orderly hAccounts.gentle hLast hFails
  have hNumber : Decimal.text elevenWaiting.nextId = "11" := by decide +kernel
  refine ⟨⟨hClosed, hOrder hClosed⟩, ?_⟩
  have hOthers : deliveries (elevenWaiting.pending.map fun w =>
      .deliver ⟨some w.1, w.2, .connectionClosed⟩) =
        elevenWaiting.pending.map fun w => ⟨some w.1, w.2, .connectionClosed⟩ :=
    deliveries_map_deliver _ _
  rw [hTrace, elevenWaiting_inOrder, hNumber]
  exact congrArg (_ :: ·) (hOthers.trans (by rfl))

end Connection

end DocWire

import DocWire.Proofs.Connection.Closing
import DocWire.Proofs.Connection.Writing

/-! A connection closes its transport once, and from then on nobody waits and every request is
answered at once. None of this depends on what the transport answers or on callbacks that abort. -/

namespace DocWire

/-- Whether an event closes the transport. -/
def Event.closes : Event → Bool
  | .close _ => true
  | _ => false

/-- A transport that was closed in these events is left alone after that. -/
def Sealed (events : List Event) : Prop :=
  events.Pairwise fun earlier later => earlier.closes = true → later.callsTransport = false

theorem Sealed.append {first rest : List Event} (hFirst : Sealed first) (hRest : Sealed rest)
    (hAlone : 0 < first.countP Event.closes → ∀ e ∈ rest, e.callsTransport = false) :
    Sealed (first ++ rest) := by
  apply List.pairwise_append.2
  refine ⟨hFirst, hRest, ?_⟩
  intro earlier hEarlier later hLater hCloses
  exact hAlone (List.countP_pos_iff.2 ⟨earlier, hEarlier, hCloses⟩) later hLater

theorem closes_of_not_callsTransport {e : Event} (h : e.callsTransport = false) :
    e.closes = false := by
  cases e with
  | deliver d => rfl
  | write data answer => cases h
  | read n deadline answer => cases h
  | close answer => cases h

namespace Connection

variable {σ : Type}

/-- Handing out responses leaves the transport alone. -/
theorem callsTransport_deliverAll {response : Response} {waiting : List (String × Recipient)} :
    ∀ e ∈ (deliverAll response waiting).1, e.callsTransport = false := by
  induction waiting with
  | nil => exact fun e he => absurd he List.not_mem_nil
  | cons w waiting ih =>
      rw [deliverAll]
      dsimp only
      split
      · simp [Event.callsTransport]
      · exact List.forall_mem_cons.2 ⟨rfl, ih⟩

theorem countP_closes_deliverAll (response : Response) (waiting : List (String × Recipient)) :
    (deliverAll response waiting).1.countP Event.closes = 0 := by
  apply List.countP_eq_zero.2
  intro e he hCloses
  rw [closes_of_not_callsTransport (callsTransport_deliverAll e he)] at hCloses
  cases hCloses

theorem Gentle.calm_deliverAll {c : Connection σ} (h : c.Gentle) (response : Response) :
    Calm (deliverAll response c.pending.inOrder).1 :=
  Connection.calm_deliverAll fun w hw => h w (c.pending.inOrder_perm.mem_iff.1 hw)

variable [Transport σ] {c c' : Connection σ} {tickets : List Ticket} {events : List Event}

/-- A move closes the transport when it closes the connection. -/
theorem Move.countP_closes (move : Move c tickets events c') :
    events.countP Event.closes + c.closed.toNat = c'.closed.toNat := by
  cases move with
  | look => exact Nat.zero_add _
  | ask => exact Nat.zero_add _
  | read =>
      rw [received_closed]
      exact Nat.zero_add _
  | write => exact Nat.zero_add _
  | hand => exact Nat.zero_add _
  | refuse => exact Nat.zero_add _
  | close hOpen =>
      rw [List.countP_cons, countP_closes_deliverAll, hOpen]
      rfl

theorem Course.countP_closes (course : Course c tickets events c') :
    events.countP Event.closes + c.closed.toNat = c'.closed.toNat := by
  induction course with
  | stay c => exact Nat.zero_add _
  | last move => exact move.countP_closes
  | step move calm rest ih =>
      have hMove := move.countP_closes
      rw [List.countP_append]
      omega

theorem Course.closed_of_closes (course : Course c tickets events c')
    (h : 0 < events.countP Event.closes) : c'.closed = true := by
  have hCount := course.countP_closes
  cases hClosed : c'.closed with
  | true => rfl
  | false =>
      rw [hClosed, Bool.toNat_false] at hCount
      omega

/-- A history closes the transport when it closes the connection. -/
theorem countP_closes_traceOf (c : Connection σ) (steps : List (Step σ)) :
    (c.traceOf steps).countP Event.closes + c.closed.toNat =
      (c.afterwards steps).closed.toNat := by
  induction steps generalizing c with
  | nil => exact Nat.zero_add _
  | cons step steps ih =>
      have hTrace : c.traceOf (step :: steps) =
          (c.take step).trace ++ (c.take step).connection.traceOf steps := rfl
      have hRest := ih (c.take step).connection
      have hStep : (c.take step).trace.countP Event.closes + c.closed.toNat =
          (c.take step).connection.closed.toNat := by
        cases step with
        | call what => exact (c.perform_follows what).course.countP_closes
        | «meanwhile» change => exact Nat.zero_add _
      rw [hTrace, List.countP_append]
      change _ = ((c.take step).connection.afterwards steps).closed.toNat
      omega

theorem Move.sealed (move : Move c tickets events c') : Sealed events := by
  cases move with
  | close hOpen =>
      apply List.pairwise_cons.2
      refine ⟨fun e he _ => callsTransport_deliverAll e he, ?_⟩
      apply List.pairwise_of_forall_mem_list
      intro earlier hEarlier later hLater hCloses
      exact callsTransport_deliverAll later hLater
  | look => exact List.Pairwise.nil
  | ask => exact List.Pairwise.nil
  | read => exact List.pairwise_singleton ..
  | write => exact List.pairwise_singleton ..
  | hand => exact List.pairwise_singleton ..
  | refuse => exact List.pairwise_singleton ..

theorem Course.sealed (course : Course c tickets events c') : Sealed events := by
  induction course with
  | stay c => exact List.Pairwise.nil
  | last move => exact move.sealed
  | step move calm rest ih =>
      apply move.sealed.append ih
      intro hCloses
      exact (rest.of_closed ((Course.last move).closed_of_closes hCloses)).2

theorem sealed_traceOf (c : Connection σ) (steps : List (Step σ)) : Sealed (c.traceOf steps) := by
  induction steps generalizing c with
  | nil => exact List.Pairwise.nil
  | cons step steps ih =>
      have hRest := ih (c.take step).connection
      cases step with
      | call what =>
          have hCourse := (c.perform_follows what).course
          apply hCourse.sealed.append hRest
          intro hCloses
          exact (of_closed (hCourse.closed_of_closes hCloses) steps).2
      | «meanwhile» change => exact hRest

/-- What is asked of the connection is answered at once, as by one that is closed, and it stays what
it is. Whoever sends or waits is told that the connection is closed. -/
structure AnswersAtOnce (c : Connection σ) : Prop where
  check : ∀ limit, (c.check limit).ending = .returned false
  close : c.close.ending = .returned ()
  /-- The callback runs, and the call returns if the callback lets it. -/
  send : ∀ method target payload k, target.toList.contains ' ' = false →
    (c.send method target payload k).trace = [.deliver ⟨none, .callback k,
      .failure ⟨.connectionClosed, "Connection closed"⟩⟩] ∧
      (c.send method target payload k).ending = if k.aborts then .aborted else .returned ()
  sendWait : ∀ method target payload limit, target.toList.contains ' ' = false →
    (c.sendWait method target payload limit).ending =
      .returned (.failure ⟨.connectionClosed, "Connection closed"⟩)
  unchanged : ∀ what,
    let after := (c.perform what).connection
    after.nextId = c.nextId ∧ after.pending = c.pending ∧ after.decoder = c.decoder

/-- With nobody waiting, a move of a closed connection changes no more than the clock. -/
theorem Move.unchanged (move : Move c tickets events c') (hClosed : c.closed = true)
    (hNobody : c.pending = []) :
    c'.nextId = c.nextId ∧ c'.pending = c.pending ∧ c'.decoder = c.decoder := by
  cases move with
  | look => exact ⟨rfl, rfl, rfl⟩
  | ask hOpen => rw [hOpen] at hClosed; cases hClosed
  | read deadline hOpen => rw [hOpen] at hClosed; cases hClosed
  | write request r hOpen hId => rw [hOpen] at hClosed; cases hClosed
  | hand id r response hWaits => rw [hNobody] at hWaits; cases hWaits
  | refuse => exact ⟨rfl, rfl, rfl⟩
  | close hOpen => rw [hOpen] at hClosed; cases hClosed

theorem Course.unchanged (course : Course c tickets events c') (hClosed : c.closed = true)
    (hNobody : c.pending = []) :
    c'.nextId = c.nextId ∧ c'.pending = c.pending ∧ c'.decoder = c.decoder := by
  induction course with
  | stay c => exact ⟨rfl, rfl, rfl⟩
  | last move => exact move.unchanged hClosed hNobody
  | step move calm rest ih =>
      obtain ⟨hNext, hPending, hDecoder⟩ := move.unchanged hClosed hNobody
      obtain ⟨hNext', hPending', hDecoder'⟩ :=
        ih (move.of_closed hClosed).1 (hPending.trans hNobody)
      exact ⟨hNext'.trans hNext, hPending'.trans hPending, hDecoder'.trans hDecoder⟩

/-- A closed connection has nothing to check, whatever the limit is. -/
theorem check_of_closed (h : c.closed = true) (limit : Option Duration) :
    (c.check limit).ending = .returned false ∧ (c.check limit).trace = [] := by
  have hLooked : c.now.2.closed = true := h
  simp only [check, poll, hLooked, if_true]
  exact ⟨rfl, rfl⟩

/-- On a closed connection a wait is over at once. -/
theorem sendWait_of_closed (h : c.closed = true) (method : Method) {target : String}
    (payload : Bytes) (limit : Option Duration) (hTarget : target.toList.contains ' ' = false) :
    (c.sendWait method target payload limit).ending = .returned .connectionClosed ∧
      (c.sendWait method target payload limit).trace =
        [.deliver ⟨none, .caller, .connectionClosed⟩] := by
  have hLooked : c.now.2.closed = true := h
  simp only [Connection.sendWait, sendTo, hTarget, hLooked, Bool.false_eq_true, if_true, if_false]
  exact ⟨rfl, rfl⟩

theorem answersAtOnce_of_closed (hClosed : c.closed = true) (hNobody : c.pending = []) :
    c.AnswersAtOnce where
  check limit := (check_of_closed hClosed limit).1
  close := by
    simp only [Connection.close, hClosed, if_true]
    rfl
  send method target payload k hTarget := by
    simp only [Connection.send, sendTo, hTarget, hClosed, Bool.false_eq_true, if_true, if_false,
      ← Response.connectionClosed_eq, true_and]
    rfl
  sendWait method target payload limit hTarget := by
    rw [← Response.connectionClosed_eq]
    exact (sendWait_of_closed hClosed method payload limit hTarget).1
  unchanged what := (c.perform_follows what).course.unchanged hClosed hNobody

/-- When nobody aborts, closing answers everybody who waits. -/
theorem close_of_gentle (hOpen : c.closed = false) (hGentle : c.Gentle) :
    c.close.ending ≠ .aborted ∧
      c.close.trace = .close (Transport.close c.transport).1 ::
        c.pending.inOrder.map fun w => .deliver ⟨some w.1, w.2, .connectionClosed⟩ := by
  have hCalm := hGentle.calm_deliverAll .connectionClosed
  have hNobody := (calm_deliverAll_iff _ _).1 hCalm
  simp only [Connection.close, hOpen, hNobody, Bool.false_eq_true, if_false]
  constructor
  · intro hAborted
    split at hAborted <;> cases hAborted
  · exact congrArg _ (deliverAll_of_calm hCalm)

/-- When nobody aborts, closing for an error reports it after everybody who waits was answered. -/
theorem closeFor_of_gentle {α : Type} {e : Error} (hOpen : c.closed = false) (hGentle : c.Gentle) :
    (c.closeFor e : Outcome σ α).ending = .failed e ∧
      deliveries (c.closeFor e : Outcome σ α).trace =
        c.pending.inOrder.map fun w => ⟨some w.1, w.2, .connectionClosed⟩ := by
  obtain ⟨hGoesOn, hTrace⟩ := close_of_gentle hOpen hGentle
  have hDeliveries : deliveries c.close.trace =
      c.pending.inOrder.map fun w => ⟨some w.1, w.2, .connectionClosed⟩ := by
    rw [hTrace]
    exact List.filterMap_map.trans (congrFun List.filterMap_eq_map' _)
  unfold closeFor
  dsimp only
  split
  next hAborted => exact absurd hAborted hGoesOn
  · exact ⟨rfl, hDeliveries⟩

/-- A transport that fails to close does not keep anybody who waits from being answered. -/
theorem close_of_failing {e : IoError} (hOpen : c.closed = false)
    (hFails : (Transport.close c.transport).1 = .error e) (hGentle : c.Gentle) :
    c.close.ending = .failed (.io e) ∧
      c.close.trace = .close (.error e) :: c.pending.inOrder.map fun w =>
        .deliver ⟨some w.1, w.2, .connectionClosed⟩ := by
  obtain ⟨-, hTrace⟩ := close_of_gentle hOpen hGentle
  have hNobody := (calm_deliverAll_iff _ _).1 (hGentle.calm_deliverAll .connectionClosed)
  rw [hFails] at hTrace
  refine ⟨?_, hTrace⟩
  simp only [Connection.close, hOpen, hFails, hNobody, Bool.false_eq_true, if_false]

/-- Through every history, over any transport and with any callbacks: the transport has been closed
once if the connection is closed and not at all if it is open, and once when the connection has been
given up; it is left alone after that. On a closed connection nobody waits, everything is answered
at once, and whatever happens the connection stays closed. When an open connection is closed whose
transport fails to close, and no callback aborts, everybody who waits is answered, and then the
failure is reported. -/
theorem closed_for_good (transport : σ) (readChunk : Nat) (steps : List (Step σ)) :
    let start := withReadChunk readChunk transport
    let c := start.afterwards steps
    ((start.traceOf steps).countP Event.closes = c.closed.toNat ∧
      (start.traceOf (steps ++ [.call .release])).countP Event.closes = 1) ∧
    Sealed (start.traceOf steps) ∧
    (c.closed = true → c.pending = [] ∧ c.AnswersAtOnce ∧
      ∀ more, (c.afterwards more).closed = true) ∧
    ∀ e, c.closed = false → (Transport.close c.transport).1 = .error e → c.Gentle →
      c.close.connection.closed = true ∧ c.close.ending = .failed (.io e) ∧
        c.close.trace = .close (.error e) :: c.pending.inOrder.map fun w =>
          .deliver ⟨some w.1, w.2, .failure ⟨.connectionClosed, "Connection closed"⟩⟩ := by
  intro start c
  have hCount (steps : List (Step σ)) :
      (start.traceOf steps).countP Event.closes = (start.afterwards steps).closed.toNat :=
    start.countP_closes_traceOf steps
  have hReleased : (start.afterwards (steps ++ [.call .release])).closed = true := by
    rw [afterwards_append]
    exact release_closed _
  have hOrderly : c.Orderly := afterwards_orderly (withReadChunk_orderly readChunk transport) steps
  refine ⟨⟨hCount steps, ?_⟩, start.sealed_traceOf steps, ?_, ?_⟩
  · rw [hCount, hReleased]
    rfl
  · intro hClosed
    have hNobody := hOrderly.atRest hClosed
    exact ⟨hNobody, answersAtOnce_of_closed hClosed hNobody, fun more => (of_closed hClosed more).1⟩
  · intro e hOpen hFails hGentle
    rw [← Response.connectionClosed_eq]
    exact ⟨c.close_closed, close_of_failing hOpen hFails hGentle⟩

/-- A transport that fails to close. -/
def failingToClose : Script :=
  { closing := some ⟨.brokenPipe, "broken pipe"⟩ }

/-- Two requests wait when the connection is closed. Both are answered before the failure is
reported; after that the connection is closed, and its transport is not closed again. -/
theorem closed_for_good_failingToClose :
    let start := withReadChunk 1 failingToClose
    let steps := pairOfSends ⟨"a", false⟩
    let o := (start.afterwards steps).close
    (o.ending = .failed (.io ⟨.brokenPipe, "broken pipe"⟩) ∧
      deliveries o.trace =
        [⟨some "0", .callback ⟨"a", false⟩, .failure ⟨.connectionClosed, "Connection closed"⟩⟩,
          ⟨some "1", .callback ⟨"b", false⟩, .failure ⟨.connectionClosed, "Connection closed"⟩⟩]) ∧
    (start.afterwards (steps ++ [.call .close])).AnswersAtOnce ∧
    (start.traceOf (steps ++ [.call .close, .call .close] ++ [.call .release])).countP
      Event.closes = 1 := by
  intro start steps o
  obtain ⟨-, -, -, hFailing⟩ := closed_for_good failingToClose 1 steps
  obtain ⟨-, -, hClosed, -⟩ := closed_for_good failingToClose 1 (steps ++ [.call .close])
  obtain ⟨⟨-, hOnce⟩, -⟩ :=
    closed_for_good failingToClose 1 (steps ++ [.call .close, .call .close])
  have hPending : (start.afterwards steps).pending =
      [("1", .callback ⟨"b", false⟩), ("0", .callback ⟨"a", false⟩)] := by decide +kernel
  have hGentle : (start.afterwards steps).Gentle := by simp [Gentle, hPending, Recipient.aborts]
  obtain ⟨-, hEnding, hTrace⟩ := hFailing ⟨.brokenPipe, "broken pipe"⟩ rfl rfl hGentle
  refine ⟨⟨hEnding, ?_⟩, (hClosed (by rfl)).2.1, hOnce⟩
  rw [hTrace, hPending, Pending.inOrder_pair (by decide)]
  rfl

end Connection

end DocWire

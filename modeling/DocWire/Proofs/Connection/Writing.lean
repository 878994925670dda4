import DocWire.Proofs.Connection.ExactlyOnce

/-! A write that fails closes the connection, with one exception: the response to the failed request
is handed out first, and a callback that aborts there leaves the connection open. -/

namespace DocWire

/-- The data that an event hands to the transport, if it does. -/
def Event.written? : Event → Option Bytes
  | .write data _ => some data
  | _ => none

/-- What is handed to the transport in these events, in order. -/
def written (events : List Event) : List Bytes :=
  events.filterMap Event.written?

@[simp] theorem written_nil : written [] = [] := rfl

@[simp] theorem written_append (first rest : List Event) :
    written (first ++ rest) = written first ++ written rest :=
  List.filterMap_append

@[simp] theorem written_write (data : Bytes) (answer : Except IoError Unit)
    (events : List Event) : written (.write data answer :: events) = data :: written events := rfl

@[simp] theorem written_deliver (d : Delivery) (events : List Event) :
    written (.deliver d :: events) = written events := rfl

@[simp] theorem written_read (n : Nat) (deadline : Option Instant)
    (answer : Except IoError Bytes) (events : List Event) :
    written (.read n deadline answer :: events) = written events := rfl

@[simp] theorem written_close (answer : Except IoError Unit) (events : List Event) :
    written (.close answer :: events) = written events := rfl

theorem mem_written {data : Bytes} {answer : Except IoError Unit} {events : List Event}
    (h : .write data answer ∈ events) : data ∈ written events :=
  List.mem_filterMap.2 ⟨_, h, rfl⟩

/-- Where nothing is written, no write is made. -/
theorem write_notMem {data : Bytes} {answer : Except IoError Unit} {events : List Event}
    (h : written events = []) : .write data answer ∉ events := by
  intro hMem
  have hSome := mem_written hMem
  rw [h] at hSome
  cases hSome

/-- Whether an event is a call to the transport. -/
def Event.callsTransport : Event → Bool
  | .deliver _ => false
  | _ => true

/-- What a call asks of the server, without the number that it is asked under. -/
structure Question where
  method : Method
  target : String
  payload : Bytes
deriving DecidableEq, Repr

/-- The request that asks the question under the number `n`. -/
def Question.numbered (q : Question) (n : Nat) : Request :=
  ⟨Decimal.text n, q.method, q.target, q.payload⟩

/-- What a call asks of the server, if it asks for a response. -/
def Call.question? : Call → Option Question
  | .send method target payload _ => some ⟨method, target, payload⟩
  | .sendWait method target payload _ => some ⟨method, target, payload⟩
  | _ => none

namespace Connection

variable {σ α β : Type}

/-- The question that a call puts to the server: the connection is open, and no space is in the
target. -/
def asked (c : Connection σ) (what : Call) : Option Question :=
  what.question?.filter fun q => !(c.closed || q.target.toList.contains ' ')

theorem asked_eq (c : Connection σ) {what : Call} {q : Question} (h : what.question? = some q) :
    c.asked what = if c.closed || q.target.toList.contains ' ' then none else some q := by
  rw [asked, h, Option.filter_some]
  cases c.closed || q.target.toList.contains ' ' <;> rfl

theorem written_deliverAll (response : Response) (waiting : List (String × Recipient)) :
    written (deliverAll response waiting).1 = [] := by
  induction waiting with
  | nil => rfl
  | cons e waiting ih =>
      rw [deliverAll]
      dsimp only
      split
      · rfl
      · rw [written_deliver, ih]

variable [Transport σ] {c c' : Connection σ} {tickets : List Ticket} {events : List Event}

theorem Move.length_written (move : Move c tickets events c') :
    (written events).length = (tickets.filterMap Ticket.id).length := by
  cases move with
  | close => rw [written_close, written_deliverAll]; rfl
  | _ => rfl

theorem Course.length_written (course : Course c tickets events c') :
    (written events).length = (tickets.filterMap Ticket.id).length := by
  induction course with
  | stay c => rfl
  | last move => exact move.length_written
  | step move calm rest ih =>
      rw [written_append, List.filterMap_append, List.length_append, List.length_append,
        move.length_written, ih]

/-- An operation that takes no request on writes nothing. -/
theorem Course.written_eq_nil (course : Course c [] events c') : written events = [] :=
  List.eq_nil_of_length_eq_zero course.length_written

theorem Course.nextId_eq (course : Course c tickets events c') :
    c'.nextId = c.nextId + (written events).length := by
  obtain ⟨k, hNext, hIds⟩ := course.numbers
  have hLength := congrArg List.length hIds
  rw [List.length_map, List.length_range'] at hLength
  rw [course.length_written, hLength, hNext]

theorem written_issue (c : Connection σ) (method : Method) (target : String) (payload : Bytes)
    (r : Recipient) :
    written (c.issue method target payload r).trace =
      [Request.encode ⟨Decimal.text c.nextId, method, target, payload⟩] := by
  simp only [issue]
  split
  · rfl
  next e hAnswer =>
    have hWaits : (c.pending.insert (Decimal.text c.nextId) r).lookup (Decimal.text c.nextId) =
        some r := by rw [Pending.lookup_insert, if_pos rfl]
    have hRest := (giveUpWrite_follows { c with
      transport := (Transport.write (Request.encode ⟨Decimal.text c.nextId, method, target,
        payload⟩) c.transport).2
      nextId := c.nextId + 1
      pending := c.pending.insert (Decimal.text c.nextId) r } e hWaits).course.written_eq_nil
    exact congrArg _ hRest

theorem written_sendTo (c : Connection σ) (method : Method) (target : String) (payload : Bytes)
    (r : Recipient) :
    written (c.sendTo method target payload r).trace =
      if c.closed || target.toList.contains ' ' then []
      else [Request.encode ⟨Decimal.text c.nextId, method, target, payload⟩] := by
  cases hTarget : target.toList.contains ' ' with
  | true =>
      simp only [sendTo, hTarget, Bool.or_true, if_true]
      rfl
  | false =>
      cases hClosed : c.closed with
      | true =>
          simp only [sendTo, hTarget, hClosed, Bool.false_eq_true, Bool.or_false, if_true, if_false]
          rfl
      | false =>
          simp only [sendTo, hTarget, hClosed, Bool.false_eq_true, Bool.or_false, if_false]
          exact c.written_issue method target payload r

/-- A wait is a request, and after it a course that takes nothing on. -/
theorem exists_course_sendWait (c : Connection σ) (method : Method) (target : String)
    (payload : Bytes) (limit : Option Duration) :
    let o := c.now.2.sendTo method target payload .caller
    let whole := c.sendWait method target payload limit
    ∃ events, whole.trace = o.trace ++ events ∧ Course o.connection [] events whole.connection := by
  dsimp only
  rw [sendWait_eq]
  dsimp only
  generalize c.now.2.sendTo method target payload .caller = o
  have hNothing : o.trace = o.trace ++ [] := (List.append_nil _).symm
  unfold Outcome.followedBy
  split
  · split
    · exact ⟨[], hNothing, .stay _⟩
    · exact ⟨_, rfl, (await_follows _ _ _ _ o.connection).course⟩
  · exact ⟨[], hNothing, .stay _⟩
  · exact ⟨[], hNothing, .stay _⟩
  · exact ⟨[], hNothing, .stay _⟩

theorem written_sendWait (c : Connection σ) (method : Method) (target : String) (payload : Bytes)
    (limit : Option Duration) :
    written (c.sendWait method target payload limit).trace =
      if c.closed || target.toList.contains ' ' then []
      else [Request.encode ⟨Decimal.text c.nextId, method, target, payload⟩] := by
  obtain ⟨events, hTrace, hCourse⟩ := c.exists_course_sendWait method target payload limit
  rw [hTrace, written_append, hCourse.written_eq_nil, List.append_nil]
  exact c.now.2.written_sendTo method target payload .caller

/-- A call writes the question that it puts to the server, under the next number, and nothing
else. -/
theorem written_perform (c : Connection σ) (what : Call) :
    written (c.perform what).trace =
      (c.asked what).toList.map fun q => (q.numbered c.nextId).encode := by
  have hAsked {q : Question} (h : what.question? = some q) :
      (c.asked what).toList.map (fun q => (q.numbered c.nextId).encode) =
        if c.closed || q.target.toList.contains ' ' then []
        else [(q.numbered c.nextId).encode] := by
    rw [c.asked_eq h]
    split <;> rfl
  have hNobody (h : what.question? = none) : c.asked what = none := by
    simp [asked, h]
  cases what with
  | send method target payload k =>
      exact (c.written_sendTo method target payload (.callback k)).trans (hAsked rfl).symm
  | check limit =>
      rw [hNobody rfl]
      exact (c.check_follows limit).course.written_eq_nil
  | sendWait method target payload limit =>
      exact (c.written_sendWait method target payload limit).trans (hAsked rfl).symm
  | close =>
      rw [hNobody rfl]
      exact c.close_follows.course.written_eq_nil
  | release =>
      rw [hNobody rfl]
      exact c.release_follows.course.written_eq_nil

theorem Move.of_closed (move : Move c tickets events c') (h : c.closed = true) :
    c'.closed = true ∧ ∀ e ∈ events, e.callsTransport = false := by
  cases move with
  | look => exact ⟨h, by simp⟩
  | ask hOpen => rw [hOpen] at h; cases h
  | read deadline hOpen => rw [hOpen] at h; cases h
  | write request r hOpen hId => rw [hOpen] at h; cases h
  | hand => exact ⟨h, by simp [Event.callsTransport]⟩
  | refuse => exact ⟨h, by simp [Event.callsTransport]⟩
  | close hOpen => rw [hOpen] at h; cases h

theorem Course.of_closed (course : Course c tickets events c') (h : c.closed = true) :
    c'.closed = true ∧ ∀ e ∈ events, e.callsTransport = false := by
  induction course with
  | stay c => exact ⟨h, by simp⟩
  | last move => exact move.of_closed h
  | step move calm rest ih =>
      obtain ⟨hMiddle, hFirst⟩ := move.of_closed h
      obtain ⟨hEnd, hRest⟩ := ih hMiddle
      refine ⟨hEnd, fun e he => ?_⟩
      exact (List.mem_append.1 he).elim (hFirst e) (hRest e)

/-- An operation that leaves the connection open found it open. -/
theorem Course.open_of_open (course : Course c tickets events c') (h : c'.closed = false) :
    c.closed = false := by
  cases hClosed : c.closed with
  | false => rfl
  | true =>
      rw [(course.of_closed hClosed).1] at h
      cases h

/-- Whatever is done with a closed connection, it stays closed and leaves its transport alone. -/
theorem of_closed {c : Connection σ} (h : c.closed = true) (steps : List (Step σ)) :
    (c.afterwards steps).closed = true ∧ ∀ e ∈ c.traceOf steps, e.callsTransport = false := by
  induction steps generalizing c with
  | nil => exact ⟨h, by simp [traceOf, outcomes]⟩
  | cons step steps ih =>
      have hStep : (c.take step).connection.closed = true ∧
          ∀ e ∈ (c.take step).trace, e.callsTransport = false := by
        cases step with
        | call what => exact (c.perform_follows what).course.of_closed h
        | «meanwhile» change => exact ⟨h, fun e he => absurd he List.not_mem_nil⟩
      obtain ⟨hEnd, hRest⟩ := ih hStep.1
      refine ⟨hEnd, fun e he => ?_⟩
      have hTrace : e ∈ (c.take step).trace ++ (c.take step).connection.traceOf steps := he
      exact (List.mem_append.1 hTrace).elim (hStep.2 e) (hRest e)

theorem closeFor_closed (c : Connection σ) (e : Error) :
    (c.closeFor e : Outcome σ α).connection.closed = true := by
  unfold closeFor
  dsimp only
  split <;> exact c.close_closed

/-- What follows a failed write closes the connection unless the request's callback aborts. -/
theorem giveUpWrite_closed (c : Connection σ) (id : String) (r : Recipient) (e : IoError)
    (hOpen : c.closed = false) : (c.giveUpWrite id r e).connection.closed = !r.aborts := by
  cases hr : r.aborts with
  | true =>
      simp only [giveUpWrite, hr, if_true]
      exact hOpen
  | false =>
      simp only [giveUpWrite, hr, Bool.false_eq_true, if_false]
      exact closeFor_closed _ _

variable {data : Bytes} {e : IoError}

theorem sendTo_closed_of_failed_write {method : Method} {target : String} {payload : Bytes}
    {r : Recipient} (h : .write data (.error e) ∈ (c.sendTo method target payload r).trace) :
    (c.sendTo method target payload r).connection.closed = !r.aborts := by
  have hWritten := mem_written h
  rw [written_sendTo] at hWritten
  cases hClosed : c.closed with
  | true =>
      rw [hClosed, Bool.true_or, if_pos rfl] at hWritten
      cases hWritten
  | false =>
      cases hTarget : target.toList.contains ' ' with
      | true =>
          rw [hTarget, Bool.or_true, if_pos rfl] at hWritten
          cases hWritten
      | false =>
          simp only [sendTo, hTarget, hClosed, Bool.false_eq_true, if_false, issue] at h ⊢
          split at h
          next hAnswer => simp [hAnswer] at h
          next failure hAnswer =>
            rw [hAnswer]
            exact giveUpWrite_closed _ _ _ _ rfl

theorem sendWait_closed_of_failed_write {method : Method} {target : String} {payload : Bytes}
    {limit : Option Duration}
    (h : .write data (.error e) ∈ (c.sendWait method target payload limit).trace) :
    (c.sendWait method target payload limit).connection.closed = true := by
  obtain ⟨events, hTrace, hCourse⟩ := c.exists_course_sendWait method target payload limit
  rw [hTrace] at h
  rcases List.mem_append.1 h with hSent | hAfter
  · exact (hCourse.of_closed (sendTo_closed_of_failed_write hSent)).1
  · exact absurd hAfter (write_notMem hCourse.written_eq_nil)

/-- A call whose write fails closes the connection, unless it brings a callback that aborts. -/
theorem perform_closed_of_failed_write {what : Call}
    (h : .write data (.error e) ∈ (c.perform what).trace) :
    (c.perform what).connection.closed = true ↔ (Step.call what : Step σ).Calm := by
  have hSilent (hNobody : what.question? = none) : False := by
    have hWritten := mem_written h
    rw [written_perform, asked, hNobody] at hWritten
    cases hWritten
  cases what with
  | send method target payload k =>
      have hClosed : (c.perform (.send method target payload k)).connection.closed = !k.aborts :=
        sendTo_closed_of_failed_write h
      simp [hClosed, Step.Calm]
  | check limit => exact (hSilent rfl).elim
  | sendWait method target payload limit =>
      exact iff_of_true (sendWait_closed_of_failed_write h) trivial
  | close => exact (hSilent rfl).elim
  | release => exact (hSilent rfl).elim

/-- The questions that are put to the server in a history, in the order of their calls. -/
def questions (c : Connection σ) : List (Step σ) → List Question
  | [] => []
  | .call what :: steps => (c.asked what).toList ++ questions (c.perform what).connection steps
  | .meanwhile change :: steps => questions (c.changing change) steps

/-- The questions of a history are written in their order, under consecutive numbers. -/
theorem written_traceOf (c : Connection σ) (steps : List (Step σ)) :
    written (c.traceOf steps) =
      (c.questions steps).mapIdx fun n q => (q.numbered (c.nextId + n)).encode := by
  induction steps generalizing c with
  | nil => rfl
  | cons step steps ih =>
      cases step with
      | call what =>
          have hWritten := c.written_perform what
          have hNext := (c.perform_follows what).course.nextId_eq
          rw [hWritten, List.length_map] at hNext
          have hTrace : c.traceOf (.call what :: steps) =
              (c.perform what).trace ++ (c.perform what).connection.traceOf steps := rfl
          rw [hTrace, written_append, hWritten, ih, hNext, questions]
          cases c.asked what with
          | none => rfl
          | some q =>
              have hShift (n : Nat) : c.nextId + 1 + n = c.nextId + (n + 1) := by omega
              simp [List.mapIdx_cons, hShift]
      | «meanwhile» change => exact ih (c.changing change)

/-- Through every history, over any transport and with any callbacks: the questions put to the
server are written in their order under the numbers 0, 1, 2 and so on, each once. A call whose write
fails ends all that, for the connection is closed from then on and no later call reaches the
transport, unless the callback that the call brings aborts. -/
theorem failed_write_is_final_iff (transport : σ) (readChunk : Nat) (steps : List (Step σ)) :
    let start := withReadChunk readChunk transport
    written (start.traceOf steps) =
        (start.questions steps).mapIdx (fun n q => (q.numbered n).encode) ∧
      ∀ before step after, steps = before ++ step :: after →
        let o := (start.afterwards before).take step
        (∃ data e, .write data (.error e) ∈ o.trace) →
          (((∀ first rest, after = first ++ rest →
              (o.connection.afterwards first).closed = true) ∧
            ∀ event ∈ o.connection.traceOf after, event.callsTransport = false) ↔ step.Calm) := by
  intro start
  constructor
  · rw [written_traceOf]
    have hZero : start.nextId = 0 := rfl
    simp only [hZero, Nat.zero_add]
  · intro before step after hSteps o hFailed
    obtain ⟨data, e, hFailed⟩ := hFailed
    cases step with
    | «meanwhile» change => exact absurd hFailed List.not_mem_nil
    | call what =>
        have hClosed : o.connection.closed = true ↔ (Step.call what : Step σ).Calm :=
          perform_closed_of_failed_write hFailed
        rw [← hClosed]
        constructor
        · intro hOver
          exact hOver.1 [] after rfl
        · intro hOver
          exact ⟨fun first rest _ => (of_closed hOver first).1, (of_closed hOver after).2⟩

/-- A transport whose first write fails. -/
def failingOnce : Script :=
  { writes := [some ⟨.brokenPipe, "broken pipe"⟩] }

/-- Two requests, the first with the given callback. -/
def pairOfSends (first : Callback) : List (Step Script) :=
  [.call (.send .get "a" [] first), .call (.send .get "b" [] ⟨"b", false⟩)]

/-- After the failed write of the first request the second is not written. -/
theorem failed_write_is_final_failingOnce :
    let start := withReadChunk 1 failingOnce
    let steps := pairOfSends ⟨"a", false⟩
    written (start.traceOf steps) = [Request.encode ⟨"0", .get, "a", []⟩] ∧
      (start.afterwards steps).closed = true ∧
      ∀ event ∈ (start.afterwards (steps.take 1)).traceOf (steps.drop 1),
        event.callsTransport = false := by
  intro start steps
  obtain ⟨hWritten, hFinal⟩ := failed_write_is_final_iff failingOnce 1 steps
  have hFailed :
      .write (Request.encode ⟨"0", .get, "a", []⟩) (.error ⟨.brokenPipe, "broken pipe"⟩) ∈
      (start.take (.call (.send .get "a" [] ⟨"a", false⟩))).trace :=
    List.mem_of_mem_head? (by with_unfolding_all rfl)
  obtain ⟨hClosed, hSilent⟩ := (hFinal [] _ _ rfl ⟨_, _, hFailed⟩).2 rfl
  refine ⟨hWritten.trans ?_, hClosed (steps.drop 1) [] rfl, hSilent⟩
  decide +kernel

/-- When the callback of the first request aborts, the connection stays open after the failed write,
and the next request is written behind it. -/
theorem second_written_after_failed_write :
    let start := withReadChunk 1 failingOnce
    let steps := pairOfSends ⟨"a", true⟩
    .write (Request.encode ⟨"0", .get, "a", []⟩) (.error ⟨.brokenPipe, "broken pipe"⟩) ∈
        start.traceOf (steps.take 1) ∧
      (start.afterwards (steps.take 1)).closed = false ∧
      written ((start.afterwards (steps.take 1)).traceOf (steps.drop 1)) =
        [Request.encode ⟨"1", .get, "b", []⟩] := by
  refine ⟨List.mem_of_mem_head? ?_, ?_, ?_⟩ <;> with_unfolding_all rfl

end Connection

end DocWire

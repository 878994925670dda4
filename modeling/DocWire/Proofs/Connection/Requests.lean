import DocWire.Proofs.Connection.Writing
import DocWire.Proofs.Transport.Record

/-! The server sees the questions that are put to it while it takes writes, each under its number
and with every part as it was sent. A call that is refused or whose write fails leaves no mark. -/

namespace DocWire

/-- The requests that ask these questions, numbered from 0. -/
def requestsFor (questions : List Question) : List Request :=
  questions.mapIdx fun n q => q.numbered n

theorem requestsFor_concat (questions : List Question) (q : Question) :
    requestsFor (questions ++ [q]) = requestsFor questions ++ [q.numbered questions.length] :=
  List.mapIdx_concat

namespace Connection

variable {c c' : Connection Loopback} {tickets : List Ticket} {events : List Event}

/-- The server takes what a move writes, unless it refuses writes. -/
theorem Move.record (move : Move c tickets events c') :
    c'.transport.record = (if c.transport.refusing then c.transport.record
        else (written events).foldl Record.take c.transport.record) ∧
      c'.transport.refusing = c.transport.refusing := by
  have hNothing : c.transport.record = if c.transport.refusing then c.transport.record
      else (written []).foldl Record.take c.transport.record := (ite_self _).symm
  cases move with
  | look => exact ⟨hNothing, rfl⟩
  | ask => exact ⟨hNothing, rfl⟩
  | read deadline =>
      obtain ⟨hRecord, hRefusing⟩ := c.transport.read_record c.readChunk deadline
      rw [received_transport]
      exact ⟨hRecord.trans hNothing, hRefusing⟩
  | write request => exact c.transport.write_record request.encode
  | hand => exact ⟨hNothing, rfl⟩
  | refuse => exact ⟨hNothing, rfl⟩
  | close =>
      rw [written_close, written_deliverAll]
      exact ⟨hNothing, rfl⟩

theorem Course.record (course : Course c tickets events c') :
    c'.transport.record = (if c.transport.refusing then c.transport.record
        else (written events).foldl Record.take c.transport.record) ∧
      c'.transport.refusing = c.transport.refusing := by
  induction course with
  | stay c => exact ⟨(ite_self _).symm, rfl⟩
  | last move => exact move.record
  | step move calm rest ih =>
      obtain ⟨hRecord, hRefusing⟩ := move.record
      obtain ⟨hRecord', hRefusing'⟩ := ih
      refine ⟨?_, hRefusing'.trans hRefusing⟩
      rw [hRecord', hRecord, hRefusing, written_append, List.foldl_append]
      split <;> rfl

theorem Move.failed_of_refusing (move : Move c tickets events c')
    (h : c.transport.refusing = true) {data : Bytes} (hData : data ∈ written events) :
    .write data (.error Loopback.refusal) ∈ events := by
  cases move with
  | write request =>
      have hAnswer : (Transport.write request.encode c.transport).1 = .error Loopback.refusal :=
        Loopback.write_of_refusing h request.encode
      obtain rfl := List.mem_singleton.1 hData
      rw [hAnswer]
      exact List.mem_singleton_self _
  | close =>
      rw [written_close, written_deliverAll] at hData
      cases hData
  | _ => cases hData

/-- While the server refuses writes, every write fails. -/
theorem Course.failed_of_refusing (course : Course c tickets events c')
    (h : c.transport.refusing = true) {data : Bytes} (hData : data ∈ written events) :
    .write data (.error Loopback.refusal) ∈ events := by
  induction course with
  | stay c => cases hData
  | last move => exact move.failed_of_refusing h hData
  | step move calm rest ih =>
      rw [written_append] at hData
      rcases List.mem_append.1 hData with hFirst | hRest
      · exact List.mem_append_left _ (move.failed_of_refusing h hFirst)
      · exact List.mem_append_right _ (ih (move.record.2.trans h) hRest)

/-- The question with which a call reaches the server: it is put to the server, and the server takes
writes. -/
def heard (c : Connection Loopback) (what : Call) : Option Question :=
  if c.transport.refusing then none else c.asked what

/-- The questions that reach the server in a history, in the order of their calls. -/
def reached (c : Connection Loopback) : List (Step Loopback) → List Question
  | [] => []
  | .call what :: steps => (c.heard what).toList ++ reached (c.perform what).connection steps
  | .meanwhile change :: steps => reached (c.changing change) steps

theorem perform_record (c : Connection Loopback) (what : Call) :
    (c.perform what).connection.transport.record =
      ((c.heard what).toList.map fun q => (q.numbered c.nextId).encode).foldl Record.take
        c.transport.record := by
  rw [(c.perform_follows what).course.record.1, written_perform, heard]
  split <;> rfl

theorem of_heard {c : Connection Loopback} {what : Call} {q : Question}
    (h : c.heard what = some q) : c.transport.refusing = false ∧ c.asked what = some q := by
  cases hRefusing : c.transport.refusing with
  | true =>
      rw [heard, hRefusing, if_pos rfl] at h
      cases h
  | false =>
      rw [heard, hRefusing, if_neg Bool.false_ne_true] at h
      exact ⟨rfl, h⟩

/-- A question that is put to the server comes over an open connection and has no space in its
target. -/
theorem of_asked {c : Connection Loopback} {what : Call} {q : Question}
    (h : c.asked what = some q) : c.closed = false ∧ ' ' ∉ q.target.toList := by
  obtain ⟨-, hAsked⟩ := Option.filter_eq_some_iff.1 h
  simpa using hAsked

/-- Nothing reaches the server from a connection that is closed, while writes are refused, or in a
call that asks nothing or has a space in its target. -/
theorem heard_eq_none {c : Connection Loopback} {what : Call}
    (h : c.closed = true ∨ c.transport.refusing = true ∨
      ∀ q, what.question? = some q → ' ' ∈ q.target.toList) : c.heard what = none := by
  cases hHeard : c.heard what with
  | none => rfl
  | some q =>
      obtain ⟨hTakes, hAsked⟩ := of_heard hHeard
      obtain ⟨hOpen, hTarget⟩ := of_asked hAsked
      rcases h with hClosed | hRefusing | hSpace
      · rw [hOpen] at hClosed
        cases hClosed
      · rw [hTakes] at hRefusing
        cases hRefusing
      · exact absurd (hSpace q (Option.filter_eq_some_iff.1 hAsked).1) hTarget

/-- With what the server has seen, a connection stands where its questions have brought it: they are
on record as numbered requests, and the next number is the number of questions. -/
structure Seen (c : Connection Loopback) (questions : List Question) : Prop where
  record : c.transport.record = .ofRequests (requestsFor questions)
  nextId : c.closed = false → c.nextId = questions.length

theorem seen_start (readChunk : Nat) : (withReadChunk readChunk Loopback.empty).Seen [] :=
  ⟨rfl, fun _ => rfl⟩

variable {questions : List Question} {what : Call}

/-- A call that reaches the server leaves the one request that it asks. -/
theorem Seen.reaching {q : Question} (h : c.Seen questions) (hHeard : c.heard what = some q)
    (hSize : (q.numbered questions.length).body.length ≤ Frame.maxSize) :
    (c.perform what).connection.Seen (questions ++ [q]) := by
  obtain ⟨-, hAsked⟩ := of_heard hHeard
  obtain ⟨hOpen, hTarget⟩ := of_asked hAsked
  have hNext := h.nextId hOpen
  have hReadable : (q.numbered questions.length).Readable :=
    ⟨Decimal.space_notMem_encode_text _, Utf8.space_notMem_encode hTarget, hSize⟩
  refine ⟨?_, fun _ => ?_⟩
  · rw [perform_record, hHeard, h.record, hNext, requestsFor_concat]
    exact Record.take_encode hReadable _
  · rw [(c.perform_follows what).course.nextId_eq, written_perform, hAsked, hNext,
      List.length_append]
    rfl

/-- While the server refuses writes, a call after which the connection is open wrote nothing, unless
it brought a callback that aborts. -/
theorem written_eq_nil_of_refusing (hRefusing : c.transport.refusing = true)
    (hCalm : (Step.call what : Step Loopback).Calm)
    (hOpen : (c.perform what).connection.closed = false) :
    written (c.perform what).trace = [] := by
  apply List.eq_nil_iff_forall_not_mem.2
  intro data hData
  have hFailed := (c.perform_follows what).course.failed_of_refusing hRefusing hData
  rw [(perform_closed_of_failed_write hFailed).2 hCalm] at hOpen
  cases hOpen

/-- A call that does not reach the server leaves no mark there. If it took a number for a write that
failed, the connection is closed, and nobody can miss that number. -/
theorem Seen.silent (h : c.Seen questions) (hHeard : c.heard what = none)
    (hCalm : (Step.call what : Step Loopback).Calm) :
    (c.perform what).connection.Seen questions := by
  have hCourse := (c.perform_follows what).course
  refine ⟨?_, fun hOpen => ?_⟩
  · rw [perform_record, hHeard]
    exact h.record
  · have hNothing : written (c.perform what).trace = [] := by
      cases hRefusing : c.transport.refusing with
      | true => exact written_eq_nil_of_refusing hRefusing hCalm hOpen
      | false =>
          have hAsked : c.asked what = none := by
            rwa [heard, hRefusing, if_neg Bool.false_ne_true] at hHeard
          rw [written_perform, hAsked]
          rfl
    rw [hCourse.nextId_eq, hNothing]
    exact h.nextId (hCourse.open_of_open hOpen)

theorem Seen.history (h : c.Seen questions) {steps : List (Step Loopback)}
    (hCalm : ∀ step ∈ steps, step.Calm)
    (hServer : ∀ change, .meanwhile change ∈ steps → Loopback.KeepsRecord change)
    (hSizes : ∀ r ∈ requestsFor (questions ++ c.reached steps), r.body.length ≤ Frame.maxSize) :
    (c.afterwards steps).Seen (questions ++ c.reached steps) := by
  induction steps generalizing c questions with
  | nil =>
      rw [reached, List.append_nil]
      exact h
  | cons step steps ih =>
      have hCalm' : ∀ step ∈ steps, step.Calm := fun s hs => hCalm s (List.mem_cons_of_mem _ hs)
      have hServer' : ∀ change, .meanwhile change ∈ steps → Loopback.KeepsRecord change :=
        fun change hs => hServer change (List.mem_cons_of_mem _ hs)
      cases step with
      | call what =>
          change (((c.perform what).connection).afterwards steps).Seen _
          rw [reached, ← List.append_assoc] at hSizes ⊢
          have hStep : (c.perform what).connection.Seen (questions ++ (c.heard what).toList) := by
            cases hHeard : c.heard what with
            | none =>
                rw [Option.toList_none, List.append_nil]
                exact h.silent hHeard (hCalm _ (List.mem_cons_self ..))
            | some q =>
                apply h.reaching hHeard
                apply hSizes
                rw [hHeard, requestsFor, List.mapIdx_append, List.mapIdx_append]
                simp
          exact ih hStep hCalm' hServer' hSizes
      | «meanwhile» change =>
          have hRecord := hServer change (List.mem_cons_self ..) c.transport
          exact ih ⟨hRecord.trans h.record, h.nextId⟩ hCalm' hServer' hSizes

/-- Through every history over a loopback without aborting callbacks, whatever the server answers or
does in between: the server has found the questions that reached it, in the order of their calls,
under the numbers 0, 1, 2 and so on, with method, target and payload as they were sent; and what was
written is their frames. A call with a space in its target, on a closed connection or with a failing
write adds nothing, and no more does a call that asks nothing. -/
theorem server_sees_what_was_sent (readChunk : Nat) (steps : List (Step Loopback))
    (hCalm : ∀ step ∈ steps, step.Calm)
    (hServer : ∀ change, .meanwhile change ∈ steps → Loopback.KeepsRecord change)
    (hSizes : ∀ r ∈ requestsFor ((withReadChunk readChunk Loopback.empty).reached steps),
      r.body.length ≤ Frame.maxSize) :
    let start := withReadChunk readChunk Loopback.empty
    let c := start.afterwards steps
    let requests := requestsFor (start.reached steps)
    (c.transport.requests = requests ∧ c.transport.written = requests.flatMap Request.encode) ∧
      ∀ what, c.closed = true ∨ c.transport.refusing = true ∨
          (∀ q, what.question? = some q → ' ' ∈ q.target.toList) →
        let after := (c.perform what).connection.transport
        after.requests = c.transport.requests ∧ after.written = c.transport.written := by
  intro start c requests
  have hSeen : c.Seen (start.reached steps) :=
    (seen_start readChunk).history hCalm hServer hSizes
  refine ⟨⟨congrArg Record.requests hSeen.record, congrArg Record.written hSeen.record⟩, ?_⟩
  intro what hReason after
  have hSame : after.record = c.transport.record := by
    have hHeard : c.heard what = none := heard_eq_none hReason
    rw [perform_record, hHeard]
    rfl
  exact ⟨congrArg Record.requests hSame, congrArg Record.written hSame⟩

/-- A payload that looks like a frame, a target with a space, a request that is answered, and two
requests after the server has begun to refuse writes. -/
def refusedAtLast : List (Step Loopback) :=
  [.call (.send .put "a" (Utf8.encode "3 0 G") ⟨"a", false⟩),
    .call (.send .get "a b" [] ⟨"b", false⟩),
    .meanwhile (·.withAnswers [.echo]),
    .call (.sendWait .get "c" [] none),
    .meanwhile (·.refuse),
    .call (.send .get "d" [] ⟨"d", false⟩),
    .call (.send .get "e" [] ⟨"e", false⟩)]

theorem server_sees_what_was_sent_refusedAtLast :
    let start := withReadChunk 4 Loopback.empty
    let c := start.afterwards refusedAtLast
    c.transport.requests = [⟨"0", .put, "a", Utf8.encode "3 0 G"⟩, ⟨"1", .get, "c", []⟩] ∧
      c.transport.written = Utf8.encode "10 0 Ua 3 0 G5 1 Gc " ∧
      (c.perform (.send .get "f" [] ⟨"f", false⟩)).connection.transport.written =
        c.transport.written := by
  intro start c
  have hReached : requestsFor (start.reached refusedAtLast) =
      [⟨"0", .put, "a", Utf8.encode "3 0 G"⟩, ⟨"1", .get, "c", []⟩] := by decide +kernel
  have hCalm : ∀ step ∈ refusedAtLast, step.Calm := by simp [refusedAtLast, Step.Calm]
  have hServer : ∀ change, .meanwhile change ∈ refusedAtLast → Loopback.KeepsRecord change := by
    intro change hMem
    simp only [refusedAtLast, List.mem_cons, Step.meanwhile.injEq, reduceCtorEq, false_or,
      List.not_mem_nil, or_false] at hMem
    obtain ⟨-, -, hAnswers, -, -, hRefuse⟩ := Loopback.server_keepsRecord [] "" "" [.echo] 0
    rcases hMem with rfl | rfl
    · exact hAnswers
    · exact hRefuse
  have hSizes : ∀ r ∈ requestsFor (start.reached refusedAtLast),
      r.body.length ≤ Frame.maxSize := by
    rw [hReached]
    decide +kernel
  obtain ⟨⟨hRequests, hWritten⟩, hSilent⟩ :=
    server_sees_what_was_sent 4 refusedAtLast hCalm hServer hSizes
  refine ⟨hRequests.trans hReached, hWritten.trans ?_, ?_⟩
  · rw [hReached]
    decide +kernel
  · exact (hSilent _ (Or.inl (by decide +kernel))).2

end Connection

end DocWire

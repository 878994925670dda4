import DocWire.Proofs.Connection.Matching

/-! A request is answered when its write succeeds and the reads after it bring the reply's frame
before the deadline. Nothing is asked of the transport but these calls. -/

namespace DocWire

namespace Connection

variable {σ : Type} [Transport σ] {c : Connection σ} {deadline : Option Instant}
  {pieces : List Bytes}

/-- Reads of at most `max` bytes bring these pieces, one after the other. The deadline has not come
when the clock is looked at, which is before each read but the first one of a poll. -/
inductive Brings (max : Nat) (deadline : Option Instant) :
    (polled : Bool) → σ → List Bytes → Prop where
  | nothing (polled : Bool) (t : σ) : Brings max deadline polled t []
  | piece (polled : Bool) (t t' t'' : σ) (piece : Bytes) (pieces : List Bytes)
      (hEarly : Looks (if polled then deadline else none) t false t')
      (hRead : Transport.read max deadline t' = (.ok piece, t''))
      (rest : Brings max deadline true t'' pieces) :
      Brings max deadline polled t (piece :: pieces)

theorem brings_feeds (max : Nat) (deadline : Option Instant) :
    Feeds max deadline (Brings max deadline : Bool → σ → List Bytes → Prop) := by
  intro polled t piece pieces h
  cases h with
  | piece _ _ t' t'' _ _ hEarly hRead rest => exact ⟨t', t'', hEarly, hRead, rest⟩

/-- A poll to which the reply to a waiting caller comes in time hands it out. -/
theorem poll_of_brings {n : Nat} {answer : Bytes} (hOpen : c.closed = false)
    (hFresh : c.decoder = .empty) (hWaits : c.pending.lookup (Decimal.text n) = some .caller)
    (hSize : (Reply.bodyFor n answer).length ≤ Frame.maxSize)
    (h : Brings c.readChunk deadline false c.transport pieces)
    (hReply : pieces.flatten = Reply.encode (Decimal.text n) answer)
    (hRounds : pieces.length < Transport.patience c.transport) :
    let o := c.poll deadline
    o.ending = .returned true ∧
      o.trace.findSome? (responseFor? (Decimal.text n)) = some (Reply.readAnswer answer) ∧
      o.connection.closed = false ∧ o.connection.decoder = .empty := by
  have hAhead : c.decoder.Ahead pieces.flatten
      (List.replicate 0 Bytes.space ++ (Frame.encode (Reply.bodyFor n answer) ++ [])) := by
    rw [hFresh, List.append_nil, hReply]
    exact Frame.Decoder.ahead_empty _
  have hTook : Took (fun _ _ => True) c (Reply.bodyFor n answer) [] (c.poll deadline) :=
    (poll_polling hOpen deadline).took (brings_feeds c.readChunk deadline) (fun _ => trivial) hSize
      rfl h hRounds hAhead
  generalize c.poll deadline = o at hTook ⊢
  obtain ⟨c', events, rest, hSame, -, hLeft, hQuiet⟩ := hTook
  have hDispatch : c'.dispatch (Reply.bodyFor n answer) =
      ⟨.returned true, { c' with pending := c'.pending.erase (Decimal.text n) },
        [.deliver ⟨some (Decimal.text n), .caller, Reply.readAnswer answer⟩]⟩ := by
    rw [← hSame.pending] at hWaits
    simp only [dispatch, Reply.decode?_bodyFor, hWaits]
    rfl
  rw [hDispatch]
  refine ⟨rfl, ?_, hSame.closed.trans hOpen, hLeft.eq_empty⟩
  exact (findSome?_responseFor?_concat hQuiet _ _).trans (if_pos rfl)

/-- A wait whose first poll comes to the response returns it. -/
theorem await_of_first_poll {id : String} {limit : Option Limit} {o : Outcome σ Bool} {b : Bool}
    {response : Response} {rounds : Nat} (hPoll : c.poll (limit.map Limit.deadline) = o)
    (hEnding : o.ending = .returned b)
    (hFound : o.trace.findSome? (responseFor? id) = some response) :
    await id limit (rounds + 1) false c = o.endingWith (.returned response) := by
  rw [await_of_returned rounds (.first _ c.transport) hPoll hEnding, hFound]

/-- The connection after the question has been written for a caller who waits. -/
def afterAsking (c : Connection σ) (q : Question) : Connection σ :=
  { c.now.2 with
    transport := (Transport.write (q.numbered c.nextId).encode c.now.2.transport).2
    nextId := c.nextId + 1
    pending := c.pending.insert (Decimal.text c.nextId) .caller }

/-- The open connection, which holds nothing of a frame, asks the question, and the server answers
it within the limit: the request is written, and all that comes then is the reply's frame, in fewer
pieces than the transport's patience allows rounds for. -/
structure Answered (c : Connection σ) (q : Question) (limit : Option Duration) (answer : Bytes) :
    Prop where
  isOpen : c.closed = false
  fresh : c.decoder = .empty
  writes : (Transport.write (q.numbered c.nextId).encode c.now.2.transport).1 = .ok ()
  size : (Reply.bodyFor c.nextId answer).length ≤ Frame.maxSize
  brings : ∃ pieces, pieces.flatten = Reply.encode (Decimal.text c.nextId) answer ∧
    pieces.length < Transport.patience (c.afterAsking q).transport ∧
    Brings c.readChunk (Instant.deadline c.now.1 limit) false (c.afterAsking q).transport pieces

variable {q : Question} {limit : Option Duration} {answer : Bytes}

theorem map_deadline_from? (now : Instant) (limit : Option Duration) :
    (Limit.from? now limit).map Limit.deadline = Instant.deadline now limit := by
  cases limit with
  | none => rfl
  | some span =>
      simp only [Limit.from?, Instant.deadline, Option.bind_some, Option.map_map]
      exact congrFun Option.map_id _

theorem Answered.sendTo_eq (h : Answered c q limit answer) (hTarget : ' ' ∉ q.target.toList) :
    c.now.2.sendTo q.method q.target q.payload .caller =
      ⟨.returned (), c.afterAsking q, [.write (q.numbered c.nextId).encode (.ok ())]⟩ := by
  have hOpen : ¬ c.now.2.closed = true := by
    rw [show c.now.2.closed = false from h.isOpen]
    exact Bool.false_ne_true
  rw [sendTo, List.contains_eq_mem, decide_eq_false hTarget, if_neg Bool.false_ne_true,
    if_neg hOpen]
  rcases c.now.2.issue_cases q.method q.target q.payload .caller with
    ⟨hWritten, hIssue⟩ | ⟨e, hFails, -⟩
  · rw [hIssue, hWritten]
    rfl
  · cases hFails.symm.trans h.writes

/-- A wait for a question that is answered returns what the answer is read as, and leaves the
connection open and holding nothing. -/
theorem sendWait_of_answered (h : Answered c q limit answer) (hTarget : ' ' ∉ q.target.toList) :
    let o := c.sendWait q.method q.target q.payload limit
    o.ending = .returned (Reply.readAnswer answer) ∧ o.connection.closed = false ∧
      o.connection.decoder = .empty := by
  obtain ⟨pieces, hReply, hRounds, hBrings⟩ := h.brings
  have hWaits : (c.afterAsking q).pending.lookup (Decimal.text c.nextId) = some .caller :=
    (Pending.lookup_insert ..).trans (if_pos rfl)
  obtain ⟨hEnding, hFound, hOpen, hEmpty⟩ := poll_of_brings (c := c.afterAsking q) h.isOpen
    h.fresh hWaits h.size hBrings hReply hRounds
  have hPoll : (c.afterAsking q).poll ((Limit.from? c.now.1 limit).map Limit.deadline) =
      (c.afterAsking q).poll (Instant.deadline c.now.1 limit) := by
    rw [map_deadline_from?]
  rw [sendWait_eq, h.sendTo_eq hTarget]
  dsimp only
  rw [Outcome.followedBy_of_returned rfl, if_neg (by simp [h.isOpen]), awaitRounds,
    await_of_first_poll hPoll hEnding hFound]
  exact ⟨rfl, hOpen, hEmpty⟩

end Connection

end DocWire

import DocWire.Proofs.Connection.Matching

/-! A wait sends a request and polls until that is answered. On the way it hands out whatever else
comes to whoever waits for it, and it returns the response to its own request and to no other. -/

namespace DocWire

/-- The body answers a request that waits, and is handed out as the response to it. -/
def Pending.Delivers (p : Pending) (body : Bytes) (d : Delivery) : Prop :=
  ∃ n r answer, (Decimal.text n, r) ∈ p ∧ body = Reply.bodyFor n answer ∧
    d = ⟨some (Decimal.text n), r, Reply.readAnswer answer⟩

theorem Pending.Delivers.of_other {p : Pending} {id : String} {r : Recipient} {body : Bytes}
    {d : Delivery} (h : Pending.Delivers ((id, r) :: p) body d) (hOther : d.id ≠ some id) :
    p.Delivers body d := by
  obtain ⟨n, r', answer, hWaits, hBody, rfl⟩ := h
  rcases List.mem_cons.1 hWaits with hSame | hWaits
  · exact absurd (congrArg some (congrArg Prod.fst hSame)) hOther
  · exact ⟨n, r', answer, hWaits, hBody, rfl⟩

/-- Bodies that do not answer a request are handed out to the others that wait. -/
theorem Pending.delivers_of_others {p : Pending} {id : String} {r : Recipient}
    {bodies : List Bytes} {others : List Delivery}
    (h : List.Forall₂ (Pending.Delivers ((id, r) :: p)) bodies others)
    (hOthers : ∀ d ∈ others, d.id ≠ some id) : List.Forall₂ p.Delivers bodies others := by
  induction h with
  | nil => exact .nil
  | cons hFirst _ ih =>
      obtain ⟨hOther, hRest⟩ := List.forall_mem_cons.1 hOthers
      exact .cons (hFirst.of_other hOther) (ih hRest)

namespace Connection

variable {σ : Type} {c c' : Connection σ} {events events' : List Event} {bodies : List Bytes}
  {body : Bytes} {reply : Reply} {r : Recipient} {n : Nat}

theorem Orderly.delivers (h : c.Orderly) (hReply : Reply.decode? body = some reply)
    (hWaits : (reply.id, r) ∈ c.pending) :
    c.pending.Delivers body ⟨some reply.id, r, reply.response⟩ := by
  obtain ⟨n, -, hText⟩ := h.numbered _ (Pending.mem_ids hWaits)
  obtain ⟨answer, hBody, hResponse⟩ := Reply.exists_bodyFor hReply hText
  dsimp only at hText
  rw [hText] at hWaits ⊢
  exact ⟨n, r, answer, hWaits, hBody, by rw [hResponse]⟩

/-- From `c` to `c'` these bodies are handed out to the requests that they answer, and the rest is
reading. -/
structure Serves (c : Connection σ) (events : List Event) (bodies : List Bytes)
    (c' : Connection σ) : Prop where
  hands : c.decoder.HandsOut (arrived events) bodies c'.decoder
  delivers : List.Forall₂ c.pending.Delivers bodies (deliveries events)
  fewer : c'.pending ⊆ c.pending
  isOpen : c'.closed = false
  goesOn : events.any Event.meetsEnd = false

theorem Serves.start (hOpen : c.closed = false) : Serves c [] [] c :=
  ⟨.start c.decoder, .nil, fun _ h => h, hOpen, rfl⟩

/-- Looking at the clock is of no concern. -/
theorem Serves.look (h : Serves c events bodies c') (t : σ) :
    Serves c events bodies { c' with transport := t } :=
  ⟨h.hands, h.delivers, h.fewer, h.isOpen, h.goesOn⟩

theorem Serves.gentle (h : Serves c events bodies c') (hGentle : c.Gentle) : c'.Gentle :=
  fun w hw => hGentle w (h.fewer hw)

theorem Serves.any_append (h : Serves c events bodies c') (hFilling : Filling events') :
    (events ++ events').any Event.meetsEnd = false := by
  rw [List.any_append, h.goesOn, hFilling.any_meetsEnd]
  rfl

theorem Serves.any_concat (h : Serves c events bodies c') (hFilling : Filling events') {e : Event}
    (hLast : e.meetsEnd = false) : (events ++ (events' ++ [e])).any Event.meetsEnd = false := by
  rw [← List.append_assoc, List.any_append, h.any_append hFilling]
  simpa using hLast

/-- A poll that comes back without a response has only read. -/
theorem Serves.late (h : Serves c events bodies c') (hFilling : Filling events')
    (hNext : (c'.held events').next.1 = .ok none) (t : σ) :
    Serves c (events ++ events') bodies (c'.fed events' t) := by
  have hWaits := Frame.Decoder.consumes_next (c'.held events')
  rw [hNext] at hWaits
  refine ⟨?_, ?_, h.fewer, h.isOpen, h.any_append hFilling⟩
  · rw [arrived_append, ← List.append_nil bodies]
    exact h.hands.append (.rest hWaits)
  · rw [deliveries_append, hFilling.deliveries, List.append_nil]
    exact h.delivers

/-- A poll that dispatches a body hands it out. -/
theorem Serves.hands_body (h : Serves c events bodies c')
    (hNext : (c'.held events').next.1 = .ok (some body)) (d : Delivery) :
    c.decoder.HandsOut (arrived (events ++ (events' ++ [.deliver d]))) (bodies ++ [body])
      (c'.held events').next.2 := by
  have hBody := Frame.Decoder.consumes_next (c'.held events')
  rw [hNext] at hBody
  have hArrived : arrived (events ++ (events' ++ [.deliver d])) =
      arrived events ++ arrived events' := by simp [Event.bytes]
  rw [hArrived]
  exact h.hands.append (.single hBody)

theorem Serves.dispatched (h : Serves c events bodies c') (hOrderly : c.Orderly)
    (hFilling : Filling events') (hNext : (c'.held events').next.1 = .ok (some body))
    (hReply : Reply.decode? body = some reply) (hWaits : (reply.id, r) ∈ c'.pending) (t : σ) :
    Serves c (events ++ (events' ++ [.deliver ⟨some reply.id, r, reply.response⟩]))
      (bodies ++ [body]) { c'.fed events' t with pending := c'.pending.erase reply.id } := by
  refine ⟨h.hands_body hNext _, ?_, ?_, h.isOpen, h.any_concat hFilling rfl⟩
  · rw [hFilling.deliveries_concat]
    exact List.rel_append h.delivers (.cons (hOrderly.delivers hReply (h.fewer hWaits)) .nil)
  · exact fun w hw => h.fewer (List.mem_filter.1 hw).1

/-- The connection after a request has been written under the next number. -/
def requested (c : Connection σ) (t : σ) (r : Recipient) : Connection σ :=
  { c with
    transport := t, nextId := c.nextId + 1, pending := (Decimal.text c.nextId, r) :: c.pending }

theorem Gentle.requested (h : c.Gentle) (hCalm : r.aborts = false) (t : σ) :
    (c.requested t r).Gentle := by
  intro w hw
  rcases List.mem_cons.1 hw with rfl | hw
  · exact hCalm
  · exact h w hw

/-- How a wait ends whose request goes on waiting. -/
inductive GivenUp (events : List Event) : Ending Response → Prop where
  | stalled : GivenUp events .stalled
  | timeout (span : Duration) : GivenUp events (.failed (.timeout span))
  | protocol (fault : ProtocolFault) : GivenUp events (.failed (.protocol fault))
  | io (e : IoError) (n : Nat) (deadline : Option Instant)
      (hRead : .read n deadline (.error e) ∈ events) : GivenUp events (.failed (.io e))

/-- How the wait for the response to the request `n` ends while nobody aborts who waits. -/
inductive Awaited (c : Connection σ) (n : Nat) : Outcome σ Response → Prop where
  | answered (c' : Connection σ) (events : List Event) (bodies : List Bytes) (answer : Bytes)
      (others : List Delivery)
      (hHands : c.decoder.HandsOut (arrived events) (bodies ++ [Reply.bodyFor n answer]) c'.decoder)
      (hDeliveries : deliveries events =
        others ++ [⟨some (Decimal.text n), .caller, Reply.readAnswer answer⟩])
      (hDelivers : List.Forall₂ c.pending.Delivers bodies others)
      (hOthers : ∀ d ∈ others, d.id ≠ some (Decimal.text n))
      (hGone : Decimal.text n ∉ c'.pending.ids) (hOpen : c'.closed = false)
      (hGoesOn : events.any Event.meetsEnd = false) :
      Awaited c n ⟨.returned (Reply.readAnswer answer), c', events⟩
  | waits (ending : Ending Response) (c' : Connection σ) (events : List Event)
      (hGivenUp : GivenUp events ending)
      (hWaits : (Decimal.text n, .caller) ∈ c'.pending) (hOpen : c'.closed = false)
      (hGoesOn : events.any Event.meetsEnd = false) :
      Awaited c n ⟨ending, c', events⟩
  | lost (c' : Connection σ) (events : List Event) (hClosed : c'.closed = true)
      (hNobody : c'.pending = []) (hEnd : events.any Event.meetsEnd = true) :
      Awaited c n ⟨.failed .connectionLost, c', events⟩

/-- A poll that dispatches the response ends the wait. -/
theorem Serves.answered {answer : Bytes} (h : Serves c events bodies c')
    (hFilling : Filling events')
    (hNext : (c'.held events').next.1 = .ok (some (Reply.bodyFor n answer)))
    (hOthers : ∀ d ∈ deliveries events, d.id ≠ some (Decimal.text n)) (t : σ) :
    Awaited c n ⟨.returned (Reply.readAnswer answer),
      { c'.fed events' t with pending := c'.pending.erase (Decimal.text n) },
      events ++ (events' ++
        [.deliver ⟨some (Decimal.text n), .caller, Reply.readAnswer answer⟩])⟩ := by
  have hGone := Pending.notMem_ids_erase c'.pending (Decimal.text n)
  exact .answered _ _ bodies answer (deliveries events) (h.hands_body hNext _)
    (hFilling.deliveries_concat _ _) h.delivers hOthers hGone h.isOpen (h.any_concat hFilling rfl)

/-- A poll that returns nothing ends the wait. -/
theorem Serves.awaited {deadline : Option Instant} {o : Outcome σ Bool} {ending : Ending Response}
    (h : Serves c events bodies c') (hWaits : (Decimal.text n, .caller) ∈ c'.pending)
    (hPoll : Ended deadline c' o) (hEnding : o.ending.NoReturn ending) :
    Awaited c n ((o.endingWith ending).after events) := by
  cases hPoll with
  | stalled c'' events' hFills =>
      cases hEnding
      have hSame := hFills.same
      refine .waits .stalled c'' (events ++ events') .stalled ?_ ?_ (h.any_append hFills.filling)
      · rw [hSame]
        exact hWaits
      · rw [hSame]
        exact h.isOpen
  | fault t events' f hFilling =>
      cases hEnding
      exact .waits _ _ (events ++ events') (.protocol _) hWaits h.isOpen (h.any_append hFilling)
  | astray t events' body fault hFilling =>
      cases hEnding
      exact .waits _ _ (events ++ events') (.protocol fault) hWaits h.isOpen (h.any_append hFilling)
  | failed t events' k e hFilling hHeld hKind =>
      cases hEnding
      have hRead :
          .read k deadline (.error e) ∈ events ++ (events' ++ [.read k deadline (.error e)]) :=
        List.mem_append_right _ (List.mem_append_right _ (List.mem_singleton_self _))
      have hLast : Event.meetsEnd (.read k deadline (.error e)) = false := decide_eq_false hKind
      exact .waits _ _ _ (.io e k deadline hRead) hWaits h.isOpen (h.any_concat hFilling hLast)
  | lost t events' k e answer hFilling hHeld hKind =>
      cases hEnding
      refine .lost _ (events ++ (events' ++ _)) rfl rfl ?_
      simp [Event.meetsEnd, hKind]
  | late => cases hEnding
  | dispatched => cases hEnding

/-- A request that was written, and nothing written behind it, is no failed write. -/
theorem not_failed_of_silent {o : Outcome σ Response} (hSilent : written o.trace = [])
    {data data' : Bytes} {e : IoError} :
    .write data' (.error e) ∉ (o.after [.write data (.ok ())]).trace := by
  intro hMem
  rcases List.mem_cons.1 hMem with hFirst | hRest
  · cases hFirst
  · exact write_notMem hSilent hRest

variable [Transport σ]

/-- How the wait for a request ends that waits, behind polls that handed out other responses. -/
theorem Awaiting.awaited {limit : Option Limit} {rounds : Nat} {polled : Bool}
    {o : Outcome σ Response} (hAwaiting : Awaiting (Decimal.text n) limit rounds polled c' o)
    (hOrderly : c.Orderly) (hGentle : c.Gentle) (hOwn : (Decimal.text n, .caller) ∈ c.pending)
    (h : Serves c events bodies c') (hWaits : (Decimal.text n, .caller) ∈ c'.pending)
    (hOthers : ∀ d ∈ deliveries events, d.id ≠ some (Decimal.text n)) :
    Awaited c n (o.after events) := by
  induction hAwaiting generalizing events bodies with
  | stalled polled c' =>
      rw [finish_after]
      exact .waits .stalled c' events .stalled hWaits h.isOpen h.goesOn
  | late rounds polled c' t bound hLimit hLooks =>
      rw [finish_after]
      exact .waits _ _ events (.timeout _) hWaits h.isOpen h.goesOn
  | broken rounds polled c' t o ending hLooks hPoll hEnding =>
      have hServes := h.look t
      have hEnded := poll_ended hServes.isOpen (hServes.gentle hGentle) (limit.map Limit.deadline)
      rw [hPoll] at hEnded
      exact hServes.awaited hWaits hEnded hEnding
  | found rounds polled c' t o dispatched response hLooks hPoll hEnding hFound =>
      have hServes := h.look t
      have hEnded := poll_ended hServes.isOpen (hServes.gentle hGentle) (limit.map Limit.deadline)
      rw [hPoll] at hEnded
      cases hEnded with
      | late t' events' hFilling hNext =>
          rw [findSome?_responseFor? hFilling.deliveries] at hFound
          cases hFound
      | dispatched t' events' body reply r hFilling hNext hReply hLookup =>
          rw [findSome?_responseFor?_concat hFilling.deliveries, responseFor?_deliver] at hFound
          obtain ⟨⟨hId, rfl⟩, rfl⟩ : (reply.id = Decimal.text n ∧ r = .caller) ∧
              reply.response = response := by simpa using hFound
          obtain ⟨answer, rfl, hResponse⟩ := Reply.exists_bodyFor hReply hId
          rw [hResponse, hId]
          exact hServes.answered hFilling hNext hOthers t'
      | _ => cases hEnding
  | more rounds polled c' t o dispatched o' hLooks hPoll hEnding hNotFound rest ih =>
      have hServes := h.look t
      have hEnded := poll_ended hServes.isOpen (hServes.gentle hGentle) (limit.map Limit.deadline)
      rw [hPoll] at hEnded
      rw [Outcome.after_after]
      cases hEnded with
      | late t' events' hFilling hNext =>
          apply ih (hServes.late hFilling hNext t') hWaits
          rwa [deliveries_append, hFilling.deliveries, List.append_nil]
      | dispatched t' events' body reply r hFilling hNext hReply hLookup =>
          have hMem := Pending.mem_of_lookup hLookup
          rw [findSome?_responseFor?_concat hFilling.deliveries, responseFor?_deliver] at hNotFound
          have hId : reply.id ≠ Decimal.text n := by
            intro hSame
            have hFound := Pending.lookup_of_mem hOrderly.distinct (h.fewer hMem)
            rw [hSame, Pending.lookup_of_mem hOrderly.distinct hOwn] at hFound
            obtain rfl := Option.some.inj hFound
            cases hNotFound.symm.trans (if_pos ⟨hSame, rfl⟩)
          apply ih (hServes.dispatched hOrderly hFilling hNext hReply hMem t')
          · exact List.mem_filter.2 ⟨hWaits, by simpa using Ne.symm hId⟩
          · rw [hFilling.deliveries_concat]
            simpa [or_imp, forall_and, hId] using hOthers
      | _ => cases hEnding

/-- How a request on an open connection comes out while nobody aborts. -/
inductive Sending (c : Connection σ) (target : String) (r : Recipient) : Outcome σ Unit → Prop where
  | refused (hSpace : target.toList.contains ' ' = true) :
      Sending c target r ⟨.failed (.invalidTarget (.unsendable target)), c, []⟩
  | written (t : σ) (data : Bytes) :
      Sending c target r ⟨.returned (), c.requested t r, [.write data (.ok ())]⟩
  | unwritten (t : σ) (data : Bytes) (e : IoError) (answer : Except IoError Unit) :
      Sending c target r ⟨.failed (.io e),
        { c with transport := t, nextId := c.nextId + 1, pending := [], closed := true },
        .write data (.error e) :: .deliver ⟨some (Decimal.text c.nextId), r, writeFailure e⟩ ::
          .close answer ::
            c.pending.inOrder.map fun w => .deliver ⟨some w.1, w.2, .connectionClosed⟩⟩

theorem sendTo_sending (hOpen : c.closed = false) (hOrderly : c.Orderly) (hGentle : c.Gentle)
    (hCalm : r.aborts = false) (method : Method) (target : String) (payload : Bytes) :
    Sending c target r (c.sendTo method target payload r) := by
  unfold sendTo
  split
  next hSpace => exact .refused hSpace
  · rw [if_neg (by simp [hOpen])]
    rcases c.issue_cases method target payload r with ⟨hWritten, hIssue⟩ | ⟨e, hFails, hIssue⟩
    · rw [hIssue, hWritten, Pending.insert_of_notMem hOrderly.fresh]
      exact .written _ _
    · rw [hIssue, hFails]
      simp only [giveUpWrite, hCalm, Bool.false_eq_true, if_false,
        Pending.erase_insert hOrderly.fresh]
      rw [closeFor_eq]
      · exact .unwritten _ _ e _
      · exact hOpen
      · exact hGentle

/-- How a wait on an open connection ends while nobody aborts who waits: its request cannot be sent,
or has been sent and is waited for. -/
inductive Waited (c : Connection σ) (target : String) : Outcome σ Response → Prop where
  | unsent (o : Outcome σ Unit) (e : Error) (hEnding : o.ending = .failed e)
      (h : Sending c.now.2 target .caller o) : Waited c target (o.endingWith (.failed e))
  | sent (t : σ) (data : Bytes) (o : Outcome σ Response) (hSilent : written o.trace = [])
      (h : Awaited (c.requested t .caller) c.nextId o) :
      Waited c target (o.after [.write data (.ok ())])

theorem sendWait_waited (hOpen : c.closed = false) (hOrderly : c.Orderly) (hGentle : c.Gentle)
    (method : Method) (target : String) (payload : Bytes) (limit : Option Duration) :
    Waited c target (c.sendWait method target payload limit) := by
  have hSending := sendTo_sending (c := c.now.2) (r := .caller) hOpen
    (hOrderly.of_eq rfl rfl rfl) hGentle rfl method target payload
  rw [sendWait_eq]
  dsimp only
  generalize c.now.2.sendTo method target payload .caller = o at hSending ⊢
  cases hSending with
  | refused hSpace => exact .unsent _ _ rfl (.refused hSpace)
  | unwritten t data e answer => exact .unsent _ _ rfl (.unwritten t data e answer)
  | written t data =>
      have hRequested : (c.requested t .caller).Orderly := hOrderly.request hOpen rfl rfl
      have hOwn : (Decimal.text c.nextId, .caller) ∈ (c.requested t .caller).pending :=
        List.mem_cons_self ..
      have hAwaiting := await_awaiting (Decimal.text c.nextId) (Limit.from? c.now.1 limit)
        (c.requested t .caller).awaitRounds false (c.requested t .caller)
      have hAwaited := hAwaiting.awaited hRequested (hGentle.requested rfl t) hOwn (.start hOpen)
        hOwn fun d hd => nomatch hd
      rw [Outcome.followedBy_of_returned rfl, if_neg (by simp [hOpen])]
      exact .sent t data _ (await_follows ..).course.written_eq_nil hAwaited

/-- The wait has returned this response: it is the one to its own request, in the first frame that
answers that, and the frames before it were handed out to the requests that they answer. -/
def ReturnsOwn (c : Connection σ) (o : Outcome σ Response) (response : Response) : Prop :=
  ∃ bodies answer others, response = Reply.readAnswer answer ∧
    c.decoder.HandsOut (arrived o.trace) (bodies ++ [Reply.bodyFor c.nextId answer])
      o.connection.decoder ∧
    deliveries o.trace = others ++ [⟨some (Decimal.text c.nextId), .caller, response⟩] ∧
    (∀ d ∈ others, d.id ≠ some (Decimal.text c.nextId)) ∧
    List.Forall₂ c.pending.Delivers bodies others

variable {target : String} {o : Outcome σ Response}

theorem Waited.returnsOwn (h : Waited c target o) {response : Response}
    (hReturned : o.ending = .returned response) : c.ReturnsOwn o response := by
  cases h with
  | unsent => cases hReturned
  | sent t data o hSilent hAwaited =>
      cases hAwaited with
      | answered c' events bodies answer others hHands hDeliveries hDelivers hOthers =>
          cases hReturned
          exact ⟨bodies, answer, others, rfl, hHands, hDeliveries, hOthers,
            Pending.delivers_of_others hDelivers hOthers⟩
      | waits ending c' events hGivenUp => cases hGivenUp <;> cases hReturned
      | lost => cases hReturned

/-- The request goes on waiting after a timeout, a breach of the protocol or a read that failed
otherwise than with the end of the stream, and else it does not. -/
theorem Waited.waits_iff (h : Waited c target o) (hFresh : Decimal.text c.nextId ∉ c.pending.ids)
    (hReturns : o.ending ≠ .stalled) :
    Decimal.text c.nextId ∈ o.connection.pending.ids ↔
      (∃ span, o.ending = .failed (.timeout span)) ∨
      (∃ fault, o.ending = .failed (.protocol fault)) ∨
      ∃ e n deadline, o.ending = .failed (.io e) ∧ .read n deadline (.error e) ∈ o.trace := by
  cases h with
  | unsent o e hEnding hSending =>
      cases hSending with
      | refused =>
          cases hEnding
          exact iff_of_false hFresh (by simp [Outcome.endingWith])
      | written => cases hEnding
      | unwritten =>
          cases hEnding
          simp [Outcome.endingWith, Pending.ids]
  | sent t data o hSilent hAwaited =>
      cases hAwaited with
      | answered c' events bodies answer others hHands hDeliveries hDelivers hOthers hGone =>
          exact iff_of_false hGone (by simp [Outcome.after])
      | waits ending c' events hGivenUp hWaits =>
          refine iff_of_true (Pending.mem_ids hWaits) ?_
          cases hGivenUp with
          | stalled => exact absurd rfl hReturns
          | timeout span => exact Or.inl ⟨span, rfl⟩
          | protocol fault => exact Or.inr (Or.inl ⟨fault, rfl⟩)
          | io e n deadline hRead =>
              exact Or.inr (Or.inr ⟨e, n, deadline, rfl, List.mem_cons_of_mem _ hRead⟩)
      | lost c' events hClosed hNobody => simp [Outcome.after, Pending.ids, hNobody]

theorem Waited.waits_of_timeout (h : Waited c target o) {span : Duration}
    (hTimeout : o.ending = .failed (.timeout span)) :
    (Decimal.text c.nextId, .caller) ∈ o.connection.pending := by
  cases h with
  | unsent o e hEnding hSending =>
      cases hTimeout
      cases hSending <;> cases hEnding
  | sent t data o hSilent hAwaited =>
      cases hAwaited with
      | waits ending c' events hGivenUp hWaits => exact hWaits
      | _ => cases hTimeout

/-- With the end of the stream, or a write that fails, the connection is closed. -/
theorem Waited.closed (h : Waited c target o)
    (hLost : o.ending = .failed .connectionLost ∨
      ∃ e data, o.ending = .failed (.io e) ∧ .write data (.error e) ∈ o.trace) :
    Decimal.text c.nextId ∉ o.connection.pending.ids ∧ o.connection.closed = true := by
  cases h with
  | unsent o e hEnding hSending =>
      cases hSending with
      | refused =>
          cases hEnding
          simp [Outcome.endingWith] at hLost
      | written => cases hEnding
      | unwritten => exact ⟨List.not_mem_nil, rfl⟩
  | sent t data o hSilent hAwaited =>
      have hEnd := hLost.resolve_right (by
        rintro ⟨e, data', -, hMem⟩
        exact not_failed_of_silent hSilent hMem)
      cases hAwaited with
      | answered => cases hEnd
      | waits ending c' events hGivenUp => cases hGivenUp <;> cases hEnd
      | lost c' events hClosed hNobody =>
          refine ⟨?_, hClosed⟩
          simp [Outcome.after, Pending.ids, hNobody]

theorem Waited.unchanged (h : Waited c target o) {fault : TargetFault}
    (hRefused : o.ending = .failed (.invalidTarget fault)) :
    o.trace = [] ∧ o.connection = c.now.2 := by
  cases h with
  | unsent o e hEnding hSending =>
      cases hSending with
      | refused => exact ⟨rfl, rfl⟩
      | written => cases hEnding
      | unwritten =>
          cases hEnding
          cases hRefused
  | sent t data o hSilent hAwaited =>
      cases hAwaited with
      | answered => cases hRefused
      | waits ending c' events hGivenUp => cases hGivenUp <;> cases hRefused
      | lost => cases hRefused

/-- A request with an id that waits goes on waiting until it is answered. -/
theorem Accounts.still_waits {taken : List Ticket} (h : Accounts c taken events)
    {steps : List (Step σ)} (hCalm : ∀ step ∈ steps, step.Calm) {id : String}
    (hWaits : (id, r) ∈ c.pending) (hNot : ⟨some id, r⟩ ∉ answered (c.traceOf steps)) :
    (id, r) ∈ (c.afterwards steps).pending := by
  obtain ⟨hTaken, hBefore⟩ := h.waits_iff.1 hWaits
  apply (h.history hCalm).waits_iff.2
  rw [answered_append, List.mem_append, List.mem_append]
  exact ⟨Or.inl hTaken, fun hMem => hMem.elim hBefore hNot⟩

/-- What a wait returns is handed out last, under the wait's own ticket. -/
theorem sendWait_last (hOrderly : c.Orderly) (hGentle : c.Gentle) {method : Method}
    {payload : Bytes} {limit : Option Duration} {response : Response}
    (hReturned : (c.sendWait method target payload limit).ending = .returned response) :
    ∃ others d, deliveries (c.sendWait method target payload limit).trace = others ++ [d] ∧
      d.ticket = c.ticketFor .caller ∧ d.response = response := by
  cases hOpen : c.closed with
  | false =>
      obtain ⟨bodies, answer, others, -, -, hDeliveries, -⟩ :=
        (sendWait_waited hOpen hOrderly hGentle method target payload limit).returnsOwn hReturned
      exact ⟨others, _, hDeliveries, by simp [Delivery.ticket, ticketFor, hOpen], rfl⟩
  | true =>
      cases hTarget : target.toList.contains ' ' with
      | true =>
          simp only [Connection.sendWait, sendTo, hTarget, if_true] at hReturned
          cases hReturned
      | false =>
          obtain ⟨hEnding, hTrace⟩ := sendWait_of_closed hOpen method payload limit hTarget
          cases hEnding.symm.trans hReturned
          refine ⟨[], ⟨none, .caller, .connectionClosed⟩, congrArg deliveries hTrace, ?_, rfl⟩
          simp [Delivery.ticket, ticketFor, hOpen]

/-- While the request `n` waits, a check that comes to its response hands it out and has done its
work with that. -/
theorem Accounts.check_of_bodyFor {taken : List Ticket} (h : Accounts c taken events)
    (hWaits : (Decimal.text n, r) ∈ c.pending) {limit : Option Duration} {answer : Bytes}
    {d : Frame.Decoder} (hReturns : (c.check limit).ending ≠ .stalled)
    (hBody : (c.held (c.check limit).trace).Consumes d (.ok (some (Reply.bodyFor n answer)))) :
    (c.check limit).ending = .returned true ∧
      deliveries (c.check limit).trace = [⟨some (Decimal.text n), r, Reply.readAnswer answer⟩] ∧
      (c.check limit).connection.pending = c.pending.erase (Decimal.text n) := by
  have hOpen : c.closed = false := by
    by_contra hClosed
    rw [h.orderly.atRest (by simpa using hClosed)] at hWaits
    cases hWaits
  have hEnded := poll_ended (c := c.now.2) hOpen h.gentle (Instant.deadline c.now.1 limit)
  exact hEnded.of_bodyFor (h.orderly.of_eq rfl rfl rfl) hWaits hReturns hBody

/-- While the request `n` waits, no wait returns its response: that of a wait has another id. -/
theorem Accounts.sendWait_of_waiting {taken : List Ticket} (h : Accounts c taken events)
    (hTaken : ⟨some (Decimal.text n), r⟩ ∈ taken) {method : Method} {payload : Bytes}
    {limit : Option Duration} {response : Response}
    (hReturned : (c.sendWait method target payload limit).ending = .returned response) :
    ∃ others d, deliveries (c.sendWait method target payload limit).trace = others ++ [d] ∧
      d.ticket = c.ticketFor .caller ∧ d.response = response ∧ d.id ≠ some (Decimal.text n) := by
  obtain ⟨others, d, hDeliveries, hTicket, hResponse⟩ :=
    sendWait_last h.orderly h.gentle hReturned
  refine ⟨others, d, hDeliveries, hTicket, hResponse, ?_⟩
  have hLess := h.lt_nextId hTaken
  rw [show d.id = (c.ticketFor .caller).id from congrArg Ticket.id hTicket, ticketFor]
  intro hSame
  split at hSame
  · cases hSame
  · have hNumber := Decimal.text_injective (Option.some.inj hSame)
    omega

/-- A wait on an open connection, reached in any way without aborting callbacks, over any transport
and with any limit. It returns the response to its own request and nothing else. Its request goes on
waiting exactly if it ends with a timeout, a breach of the protocol or a failed read that is not the
end of the stream. When the stream or a failed write ends it, the connection is closed. When it is
refused, nothing has happened. After a timeout, whatever is done next without aborting callbacks,
the first check that comes to the late response hands it out and returns, and no other wait returns
it. -/
theorem sendWait_returns_its_own_response (transport : σ) (readChunk : Nat)
    (steps : List (Step σ)) (hReached : (withReadChunk readChunk transport).afterwards steps = c)
    (hCalm : ∀ step ∈ steps, step.Calm) (hOpen : c.closed = false) (method : Method)
    (target : String) (payload : Bytes) (limit : Option Duration) :
    let own := Decimal.text c.nextId
    let o := c.sendWait method target payload limit
    (∀ response, o.ending = .returned response → c.ReturnsOwn o response) ∧
    (o.ending ≠ .stalled → (own ∈ o.connection.pending.ids ↔
      (∃ span, o.ending = .failed (.timeout span)) ∨
      (∃ fault, o.ending = .failed (.protocol fault)) ∨
      ∃ e n deadline, o.ending = .failed (.io e) ∧ .read n deadline (.error e) ∈ o.trace)) ∧
    (o.ending = .failed .connectionLost ∨
      (∃ e data, o.ending = .failed (.io e) ∧ .write data (.error e) ∈ o.trace) →
        own ∉ o.connection.pending.ids ∧ o.connection.closed = true) ∧
    (∀ fault, o.ending = .failed (.invalidTarget fault) →
      o.trace = [] ∧ o.connection = c.now.2) ∧
    ∀ span, o.ending = .failed (.timeout span) → ∀ more, (∀ step ∈ more, step.Calm) →
      let later := o.connection.afterwards more
      (⟨some own, .caller⟩ ∉ answered (o.connection.traceOf more) → ∀ limit' answer d,
        let check := later.check limit'
        check.ending ≠ .stalled →
        (later.held check.trace).Consumes d (.ok (some (Reply.bodyFor c.nextId answer))) →
          check.ending = .returned true ∧
          deliveries check.trace = [⟨some own, .caller, Reply.readAnswer answer⟩] ∧
          check.connection.pending = later.pending.erase own) ∧
      ∀ method' target' payload' limit' response,
        let wait := later.sendWait method' target' payload' limit'
        wait.ending = .returned response → ∃ others d, deliveries wait.trace = others ++ [d] ∧
          d.ticket = later.ticketFor .caller ∧ d.response = response ∧ d.id ≠ some own := by
  intro own o
  have hAccounts := (withReadChunk_accounts readChunk transport).history hCalm
  rw [hReached] at hAccounts
  have hWaited : Waited c target o :=
    sendWait_waited hOpen hAccounts.orderly hAccounts.gentle method target payload limit
  refine ⟨fun response => hWaited.returnsOwn, hWaited.waits_iff hAccounts.orderly.fresh,
    hWaited.closed, fun fault => hWaited.unchanged, ?_⟩
  intro span hTimeout more hMore later
  have hWaits := hWaited.waits_of_timeout hTimeout
  have hAfter := hAccounts.course (c.perform_follows (.sendWait method target payload limit)).course
    (c.takenOn_calm trivial)
  have hLater := hAfter.history hMore
  constructor
  · intro hNot limit' answer d check hReturns hBody
    exact hLater.check_of_bodyFor (hAfter.still_waits hMore hWaits hNot) hReturns hBody
  · intro method' target' payload' limit' response wait hReturned
    have hTaken := (hAfter.waits_iff.1 hWaits).1
    exact hLater.sendWait_of_waiting (List.mem_append_left _ hTaken) hReturned

/-- Nothing comes to the first wait. Its response comes together with that to the second one. -/
def lateReply : Script :=
  { reads := [.ok [], .ok (Reply.encode "0" (Utf8.encode "Sold") ++
      Reply.encode "1" (Utf8.encode "Snew"))] }

/-- The connection after the first wait has been given up. -/
def givenUpOnce : Connection Script :=
  { transport := { reads := lateReply.reads.tail }
    pending := [("0", .caller)], nextId := 1, readChunk := 64 }

/-- A wait without time is given up and its request goes on waiting. The next wait hands out the
late response on its way and returns its own. -/
theorem sendWait_returns_its_own_response_lateReply :
    let first := (withReadChunk 64 lateReply).sendWait .get "a" [] (some ⟨0⟩)
    let second := givenUpOnce.sendWait .get "b" [] none
    (first.ending = .failed (.timeout ⟨0⟩) ∧ Decimal.text 0 ∈ first.connection.pending.ids) ∧
    (first.connection = givenUpOnce ∧ second.ending = .returned (.text "new") ∧
      givenUpOnce.ReturnsOwn second (.text "new")) ∧
    deliveries second.trace =
      [⟨some "0", .caller, .text "old"⟩, ⟨some "1", .caller, .text "new"⟩] := by
  intro first second
  have hTimeout : first.ending = .failed (.timeout ⟨0⟩) := by rfl
  have hGivenUp : first.connection = givenUpOnce := by with_unfolding_all rfl
  have hReturned : second.ending = .returned (.text "new") := by with_unfolding_all rfl
  obtain ⟨-, hWaits, -⟩ := sendWait_returns_its_own_response (c := withReadChunk 64 lateReply)
    lateReply 64 [] rfl (by simp) rfl .get "a" [] (some ⟨0⟩)
  obtain ⟨hOwn, -⟩ := sendWait_returns_its_own_response (c := givenUpOnce) lateReply 64
    [.call (.sendWait .get "a" [] (some ⟨0⟩))] (by with_unfolding_all rfl) (by simp [Step.Calm]) rfl
    .get "b" [] none
  have hReturns : first.ending ≠ .stalled := by simp [hTimeout]
  exact ⟨⟨hTimeout, (hWaits hReturns).2 (Or.inl ⟨_, hTimeout⟩)⟩,
    ⟨hGivenUp, hReturned, hOwn _ hReturned⟩, by with_unfolding_all rfl⟩

end Connection

end DocWire

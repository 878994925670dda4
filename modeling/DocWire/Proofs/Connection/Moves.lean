import DocWire.Connection.History
import DocWire.Proofs.Connection.Polling
import DocWire.Proofs.Frame.Decoding

/-! Every operation is a course of moves, of which there are seven kinds. A callback that aborts
ends the course with the move that ran it. What holds of every move holds of every operation,
whatever the transport answers. -/

namespace DocWire

/-- A request that was taken on: the id it was written under, or none where the connection was
closed already, and who waits for its response. -/
structure Ticket where
  id : Option String
  recipient : Recipient
deriving DecidableEq, Repr

def Delivery.ticket (d : Delivery) : Ticket :=
  ⟨d.id, d.recipient⟩

/-- The response that an event hands out, if it does. -/
def Event.delivery? : Event → Option Delivery
  | .deliver d => some d
  | _ => none

/-- Whether an event runs a callback that aborts. -/
def Event.aborts : Event → Bool
  | .deliver d => d.recipient.aborts
  | _ => false

/-- No callback aborts in these events. -/
def Calm (events : List Event) : Prop :=
  ∀ e ∈ events, e.aborts = false

@[simp] theorem calm_nil : Calm [] := by simp [Calm]

@[simp] theorem calm_cons {e : Event} {events : List Event} :
    Calm (e :: events) ↔ e.aborts = false ∧ Calm events := by
  simp [Calm]

@[simp] theorem calm_append {first rest : List Event} :
    Calm (first ++ rest) ↔ Calm first ∧ Calm rest := by
  simp only [Calm, List.mem_append]
  exact ⟨fun h => ⟨fun e he => h e (Or.inl he), fun e he => h e (Or.inr he)⟩,
    fun h e he => he.elim (h.1 e) (h.2 e)⟩

theorem Outcome.after_after {σ α : Type} (o : Outcome σ α) (first rest : List Event) :
    (o.after rest).after first = o.after (first ++ rest) := by
  simp [after]

/-- Goes on where an operation returned. Any other ending stays the ending. -/
def Outcome.followedBy {σ α β : Type} (o : Outcome σ α) (next : α → Outcome σ β) : Outcome σ β :=
  match o.ending with
  | .returned a => next a
  | .failed e => o.endingWith (.failed e)
  | .aborted => o.endingWith .aborted
  | .stalled => o.endingWith .stalled

section FollowedBy

variable {σ α β : Type} {o : Outcome σ α} {next : α → Outcome σ β} {e : Error}

theorem Outcome.followedBy_of_returned {a : α} (h : o.ending = .returned a) :
    o.followedBy next = next a := by
  simp only [followedBy, h]

theorem Outcome.followedBy_of_failed (h : o.ending = .failed e) :
    o.followedBy next = o.endingWith (.failed e) := by
  simp only [followedBy, h]

theorem Outcome.followedBy_of_aborted (h : o.ending = .aborted) :
    o.followedBy next = o.endingWith .aborted := by
  simp only [followedBy, h]

/-- What fails is the operation itself or what follows it. -/
theorem Outcome.failed_of_followedBy (h : (o.followedBy next).ending = .failed e) :
    (∃ a, o.ending = .returned a ∧ o.followedBy next = next a) ∨
      o.ending = .failed e ∧ o.followedBy next = o.endingWith (.failed e) := by
  unfold followedBy at h ⊢
  split at h
  next a hEnding => exact Or.inl ⟨a, hEnding, rfl⟩
  next e' hEnding =>
    cases h
    exact Or.inr ⟨hEnding, rfl⟩
  · cases h
  · cases h

end FollowedBy

namespace Connection

variable {σ : Type}

/-- The connection after a read was answered. -/
def received (c : Connection σ) : Except IoError Bytes → Connection σ
  | .ok chunk => { c with decoder := c.decoder.push chunk }
  | .error _ => c

/-- The ticket for a request that is made now. -/
def ticketFor (c : Connection σ) (r : Recipient) : Ticket :=
  ⟨if c.closed then none else some (Decimal.text c.nextId), r⟩

variable [Transport σ]

/-- One thing that an operation does: from a connection to the next, with the requests it takes on
and the events it leaves. -/
inductive Move : Connection σ → List Ticket → List Event → Connection σ → Prop where
  | look (c : Connection σ) : Move c [] [] c.now.2
  | ask (c : Connection σ) (hOpen : c.closed = false) :
      Move c [] [] { c with decoder := c.decoder.next.2 }
  | read (c : Connection σ) (deadline : Option Instant) (hOpen : c.closed = false)
      (hWaits : c.decoder.next = (.ok none, c.decoder)) :
      Move c [] [.read c.readChunk deadline (Transport.read c.readChunk deadline c.transport).1]
        (received { c with transport := (Transport.read c.readChunk deadline c.transport).2 }
          (Transport.read c.readChunk deadline c.transport).1)
  | write (c : Connection σ) (request : Request) (r : Recipient) (hOpen : c.closed = false)
      (hId : request.id = Decimal.text c.nextId) :
      Move c [⟨some request.id, r⟩]
        [.write request.encode (Transport.write request.encode c.transport).1]
        { c with
          transport := (Transport.write request.encode c.transport).2
          nextId := c.nextId + 1
          pending := c.pending.insert request.id r }
  | hand (c : Connection σ) (id : String) (r : Recipient) (response : Response)
      (hWaits : c.pending.lookup id = some r) :
      Move c [] [.deliver ⟨some id, r, response⟩] { c with pending := c.pending.erase id }
  | refuse (c : Connection σ) (r : Recipient) (hClosed : c.closed = true) :
      Move c [⟨none, r⟩] [.deliver ⟨none, r, .connectionClosed⟩] c
  | close (c : Connection σ) (hOpen : c.closed = false) :
      Move c []
        (.close (Transport.close c.transport).1 ::
          (deliverAll .connectionClosed c.pending.inOrder).1)
        { c with transport := (Transport.close c.transport).2, pending := [], closed := true }

/-- Moves one after the other. Only the last may run a callback that aborts. -/
inductive Course : Connection σ → List Ticket → List Event → Connection σ → Prop where
  | stay (c : Connection σ) : Course c [] [] c
  | last {c c' : Connection σ} {tickets : List Ticket} {events : List Event}
      (move : Move c tickets events c') : Course c tickets events c'
  | step {c c' c'' : Connection σ} {tickets tickets' : List Ticket} {events events' : List Event}
      (move : Move c tickets events c') (calm : Calm events)
      (rest : Course c' tickets' events' c'') :
      Course c (tickets ++ tickets') (events ++ events') c''

theorem Course.append {c c' c'' : Connection σ} {tickets tickets' : List Ticket}
    {events events' : List Event} (first : Course c tickets events c') (calm : Calm events)
    (second : Course c' tickets' events' c'') :
    Course c (tickets ++ tickets') (events ++ events') c'' := by
  induction first with
  | stay c => exact second
  | last move => exact .step move calm second
  | step move calmMove rest ih =>
      rw [List.append_assoc, List.append_assoc]
      exact .step move calmMove (ih (calm_append.1 calm).2 second)

/-- What every operation does: it takes a course, and it ends otherwise than by an abort only if
none of its callbacks aborts. -/
structure Follows {α : Type} (c : Connection σ) (tickets : List Ticket) (o : Outcome σ α) :
    Prop where
  course : Course c tickets o.trace o.connection
  calm : o.ending = .aborted ∨ Calm o.trace

variable {α β : Type} {c c' : Connection σ} {tickets tickets' : List Ticket} {events : List Event}

theorem follows_finish (c : Connection σ) (ending : Ending α) : Follows c [] (c.finish ending) :=
  ⟨.stay c, Or.inr calm_nil⟩

theorem Follows.endingWith {o : Outcome σ α} (h : Follows c tickets o) {ending : Ending β}
    (hAbort : o.ending = .aborted → ending = .aborted) :
    Follows c tickets (o.endingWith ending) :=
  ⟨h.course, h.calm.imp_left hAbort⟩

theorem Follows.map {o : Outcome σ α} (h : Follows c tickets o) (f : α → β) :
    Follows c tickets (o.map f) :=
  h.endingWith fun hEnding => by rw [hEnding]; rfl

theorem Follows.after {o : Outcome σ α} (first : Course c tickets events c') (calm : Calm events)
    (h : Follows c' tickets' o) : Follows c (tickets ++ tickets') (o.after events) :=
  ⟨first.append calm h.course, h.calm.imp_right fun hTrace => calm_append.2 ⟨calm, hTrace⟩⟩

theorem Follows.followedBy {o : Outcome σ α} {next : α → Outcome σ β} (h : Follows c tickets o)
    (hNext : ∀ a, o.ending = .returned a → Follows c tickets (next a)) :
    Follows c tickets (o.followedBy next) := by
  unfold Outcome.followedBy
  split
  next a hEnding => exact hNext a hEnding
  next e hEnding => exact h.endingWith fun hAbort => by rw [hEnding] at hAbort; cases hAbort
  · exact h.endingWith fun _ => rfl
  next hEnding => exact h.endingWith fun hAbort => by rw [hEnding] at hAbort; cases hAbort

/-- Handing out stops at a recipient that aborts, and only there. -/
theorem calm_deliverAll_iff (response : Response) (waiting : List (String × Recipient)) :
    Calm (deliverAll response waiting).1 ↔ (deliverAll response waiting).2 = false := by
  induction waiting with
  | nil => simp [deliverAll]
  | cons e waiting ih =>
      obtain ⟨id, r⟩ := e
      cases hr : r.aborts with
      | true => simp [deliverAll, hr, Event.aborts]
      | false => simpa [deliverAll, hr, Event.aborts] using ih

theorem close_follows (c : Connection σ) : Follows c [] c.close := by
  cases hClosed : c.closed with
  | true =>
      simp only [close, hClosed, if_true]
      exact follows_finish c _
  | false =>
      simp only [close, hClosed, Bool.false_eq_true, if_false]
      refine ⟨.last (.close c hClosed), ?_⟩
      cases hAborted : (deliverAll .connectionClosed c.pending.inOrder).2 with
      | true => exact Or.inl rfl
      | false =>
          refine Or.inr (calm_cons.2 ⟨rfl, ?_⟩)
          exact (calm_deliverAll_iff _ _).2 hAborted

theorem closeFor_follows (c : Connection σ) (e : Error) :
    Follows c [] (c.closeFor e : Outcome σ α) := by
  unfold closeFor
  dsimp only
  split
  · exact c.close_follows.endingWith fun _ => rfl
  next hEnding => exact c.close_follows.endingWith fun h => absurd h hEnding

theorem release_follows (c : Connection σ) : Follows c [] c.release := by
  unfold release
  dsimp only
  split
  next e hEnding => exact c.close_follows.endingWith fun h => by rw [hEnding] at h; cases h
  · exact c.close_follows

theorem giveUpWrite_follows (c : Connection σ) {id : String} {r : Recipient} (e : IoError)
    (hWaits : c.pending.lookup id = some r) : Follows c [] (c.giveUpWrite id r e) := by
  have hMove := Move.hand c id r (writeFailure e) hWaits
  cases hr : r.aborts with
  | true =>
      simp only [giveUpWrite, hr, if_true]
      exact ⟨.last hMove, Or.inl rfl⟩
  | false =>
      simp only [giveUpWrite, hr, Bool.false_eq_true, if_false]
      exact Follows.after (.last hMove) (by simp [Event.aborts, hr]) (closeFor_follows _ _)

theorem issue_follows (c : Connection σ) (method : Method) (target : String) (payload : Bytes)
    (r : Recipient) (hOpen : c.closed = false) :
    Follows c [c.ticketFor r] (c.issue method target payload r) := by
  have hMove := Move.write c ⟨Decimal.text c.nextId, method, target, payload⟩ r hOpen rfl
  have hTicket : c.ticketFor r = ⟨some (Decimal.text c.nextId), r⟩ := by simp [ticketFor, hOpen]
  rw [hTicket]
  simp only [issue]
  split
  next hAnswer => exact ⟨.last hMove, Or.inr (by simp [Event.aborts])⟩
  next e hAnswer =>
    refine (Follows.after (.last hMove) (by simp [Event.aborts]) ?_ : Follows c ([_] ++ []) _)
    exact giveUpWrite_follows _ e (by rw [Pending.lookup_insert, if_pos rfl])

theorem sendTo_follows (c : Connection σ) (method : Method) {target : String} (payload : Bytes)
    (r : Recipient) (hTarget : target.toList.contains ' ' = false) :
    Follows c [c.ticketFor r] (c.sendTo method target payload r) := by
  cases hClosed : c.closed with
  | true =>
      simp only [sendTo, ticketFor, hTarget, hClosed, Bool.false_eq_true, if_true, if_false]
      refine ⟨.last (.refuse c r hClosed), ?_⟩
      cases hr : r.aborts <;> simp [Recipient.allow, Event.aborts, hr]
  | false =>
      simp only [sendTo, hTarget, hClosed, Bool.false_eq_true, if_false]
      exact c.issue_follows method target payload r hClosed

theorem Looks.course {deadline : Option Instant} {late : Bool} {t : σ}
    (h : Looks deadline c.transport late t) : Course c [] [] { c with transport := t } := by
  cases h with
  | unlimited => exact .stay c
  | clock d => exact .last (.look c)

theorem dispatch_follows (c : Connection σ) (body : Bytes) : Follows c [] (c.dispatch body) := by
  unfold dispatch
  split
  · exact follows_finish c _
  next reply hReply =>
    split
    · exact follows_finish c _
    next r hWaits =>
      refine ⟨.last (.hand c reply.id r reply.response hWaits), ?_⟩
      cases hr : r.aborts <;> simp [Recipient.allow, Event.aborts, hr]

theorem giveUpRead_follows (c : Connection σ) (e : IoError) :
    Follows c [] (c.giveUpRead e : Outcome σ α) := by
  unfold giveUpRead
  split
  · exact closeFor_follows c _
  · exact follows_finish c _

/-- A decoder that waits is asked, and then the clock is looked at. -/
theorem waiting_course (hOpen : c.closed = false) {deadline : Option Instant} {late : Bool} {t : σ}
    (hLooks : Looks deadline c.transport late t) :
    Course c [] [] { c with decoder := c.decoder.next.2, transport := t } :=
  Course.append (.last (.ask c hOpen)) calm_nil
    (Looks.course (c := { c with decoder := c.decoder.next.2 }) hLooks)

/-- While the decoder waits a read is made. -/
theorem reading_course (hOpen : c.closed = false) (hNext : c.decoder.next.1 = .ok none)
    {deadline deadline' : Option Instant} {t t' : σ} {answer : Except IoError Bytes}
    (hLooks : Looks deadline' c.transport false t)
    (hRead : Transport.read c.readChunk deadline t = (answer, t')) :
    Course c [] [.read c.readChunk deadline answer]
      (received { c with decoder := c.decoder.next.2, transport := t' } answer) := by
  have hMove := Move.read { c with decoder := c.decoder.next.2, transport := t } deadline hOpen
    (Frame.Decoder.next_next_of_waiting hNext)
  dsimp only at hMove
  rw [hRead] at hMove
  exact (waiting_course hOpen hLooks).append calm_nil (.last hMove)

theorem Polling.follows {deadline : Option Instant} {rounds : Nat} {polled : Bool}
    {o : Outcome σ Bool} (h : Polling deadline rounds polled c o) (hOpen : c.closed = false) :
    Follows c [] o := by
  induction h with
  | stalled polled c => exact follows_finish c _
  | fault rounds polled c f hNext =>
      exact Follows.after (.last (.ask c hOpen)) calm_nil (follows_finish _ _)
  | body rounds polled c body hNext =>
      exact Follows.after (.last (.ask c hOpen)) calm_nil (dispatch_follows _ body)
  | late rounds polled c t hNext hLooks =>
      exact Follows.after (waiting_course hOpen hLooks) calm_nil (follows_finish _ _)
  | failed rounds polled c t t' e hNext hLooks hRead =>
      exact Follows.after (reading_course hOpen hNext hLooks hRead) (by simp [Event.aborts])
        (giveUpRead_follows _ e)
  | more rounds polled c t t' chunk o hNext hLooks hRead rest ih =>
      exact Follows.after (reading_course hOpen hNext hLooks hRead) (by simp [Event.aborts])
        (ih hOpen)

theorem poll_follows (c : Connection σ) (deadline : Option Instant) :
    Follows c [] (c.poll deadline) := by
  cases hClosed : c.closed with
  | true =>
      simp only [poll, hClosed, if_true]
      exact follows_finish c _
  | false => exact (poll_polling hClosed deadline).follows hClosed

theorem check_follows (c : Connection σ) (limit : Option Duration) : Follows c [] (c.check limit) :=
  Follows.after (.last (.look c)) calm_nil (poll_follows c.now.2 _)

theorem Awaiting.follows {id : String} {limit : Option Limit} {rounds : Nat} {polled : Bool}
    {o : Outcome σ Response} (h : Awaiting id limit rounds polled c o) : Follows c [] o := by
  induction h with
  | stalled polled c => exact follows_finish c _
  | late rounds polled c t bound hLimit hLooks =>
      exact Follows.after hLooks.course calm_nil (follows_finish _ _)
  | broken rounds polled c t o ending hLooks hPoll hEnding =>
      have hPolled : Follows c [] o :=
        Follows.after hLooks.course calm_nil (hPoll ▸ poll_follows _ _)
      refine hPolled.endingWith fun hAborted => ?_
      rw [hAborted] at hEnding
      cases hEnding
      rfl
  | found rounds polled c t o dispatched response hLooks hPoll hEnding hFound =>
      have hPolled : Follows c [] o :=
        Follows.after hLooks.course calm_nil (hPoll ▸ poll_follows _ _)
      exact hPolled.endingWith fun hAborted => nomatch hEnding.symm.trans hAborted
  | more rounds polled c t o dispatched o' hLooks hPoll hEnding hNotFound rest ih =>
      have hPolled : Follows c [] o :=
        Follows.after hLooks.course calm_nil (hPoll ▸ poll_follows _ _)
      have hCalm : Calm o.trace := hPolled.calm.resolve_left (by simp [hEnding])
      exact Follows.after hPolled.course hCalm ih

theorem await_follows (id : String) (limit : Option Limit) (rounds : Nat) (polled : Bool)
    (c : Connection σ) : Follows c [] (await id limit rounds polled c) :=
  (await_awaiting id limit rounds polled c).follows

/-- A wait is a request, made by a caller who polls until it is answered. -/
theorem sendWait_eq (c : Connection σ) (method : Method) (target : String) (payload : Bytes)
    (limit : Option Duration) :
    c.sendWait method target payload limit =
      let o := c.now.2.sendTo method target payload .caller
      o.followedBy fun _ =>
        if c.closed then o.endingWith (.returned .connectionClosed)
        else
          (await (Decimal.text c.nextId) (Limit.from? c.now.1 limit) o.connection.awaitRounds false
            o.connection).after o.trace := by
  simp only [sendWait, Outcome.followedBy]
  cases (c.now.2.sendTo method target payload .caller).ending <;> rfl

theorem sendWait_follows (c : Connection σ) (method : Method) {target : String} (payload : Bytes)
    (limit : Option Duration) (hTarget : target.toList.contains ' ' = false) :
    Follows c [c.ticketFor .caller] (c.sendWait method target payload limit) := by
  have hSend := sendTo_follows c.now.2 method payload .caller hTarget
  have hClock : Course c [] [] c.now.2 := .last (.look c)
  rw [sendWait_eq]
  dsimp only
  generalize c.now.2.sendTo method target payload .caller = o at hSend ⊢
  refine (Follows.after hClock calm_nil (hSend.followedBy ?_) :
    Follows c ([] ++ [c.ticketFor .caller]) _)
  intro _ hEnding
  split
  · exact hSend.endingWith fun h => by rw [hEnding] at h; cases h
  · have hCalm : Calm o.trace := hSend.calm.resolve_left (by simp [hEnding])
    exact (Follows.after hSend.course hCalm (await_follows _ _ _ _ o.connection) :
      Follows _ ([c.ticketFor .caller] ++ []) _)

end Connection

end DocWire

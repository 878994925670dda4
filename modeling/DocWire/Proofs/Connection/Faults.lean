import DocWire.Proofs.Connection.Calls
import DocWire.Proofs.Connection.Final
import DocWire.Transport.Scripted

/-! The decoder remembers no fault; it keeps the bytes that begin no frame, and as long as it
reports them nothing is read behind them. So every later call meets the same fault. -/

namespace DocWire

namespace Connection

variable {σ : Type} [Transport σ] {c c' : Connection σ} {tickets : List Ticket}
  {events : List Event}
  {fault : Frame.Fault}

/-- A failed write of a wait is reported when nobody who waits besides would abort. -/
theorem giveUpWrite_ending_of_gentle {id : String} {others : Pending}
    (hPending : c.pending = others.insert id .caller) (hGentle : ∀ w ∈ others, w.2.aborts = false)
    (hOpen : c.closed = false) (e : IoError) :
    (c.giveUpWrite id .caller e).ending = .failed (.io e) := by
  have hOthers : Gentle { c with pending := c.pending.erase id } := by
    intro w hw
    have hw' : w ∈ (others.insert id .caller).erase id := hPending ▸ hw
    simp only [Pending.insert, Pending.erase, List.mem_filter, List.mem_cons] at hw'
    obtain ⟨rfl | ⟨hMem, -⟩, -⟩ := hw'
    · rfl
    · exact hGentle w hMem
  have hStillOpen : ({ c with pending := c.pending.erase id } : Connection σ).closed = false :=
    hOpen
  exact (closeFor_of_gentle hStillOpen hOthers).1

/-- A wait whose request cannot be written fails with that, unless a callback aborts that waits
already. -/
theorem issue_ending_of_failed {method : Method} {target : String} {payload : Bytes} {e : IoError}
    (hOpen : c.closed = false)
    (hAnswer : (Transport.write (Request.encode ⟨Decimal.text c.nextId, method, target, payload⟩)
      c.transport).1 = .error e) :
    let o := c.issue method target payload .caller
    (∃ data, .write data (.error e) ∈ o.trace) ∧
      (o.ending = .failed (.io e) ∨ o.ending = .aborted ∧ ¬ c.Gentle) := by
  intro o
  rcases c.issue_cases method target payload .caller with ⟨hOk, -⟩ | ⟨e', hFailed, hIssue⟩
  · cases hOk.symm.trans hAnswer
  · cases hFailed.symm.trans hAnswer
    rw [hAnswer] at hIssue
    rw [show o = _ from hIssue]
    apply And.intro ⟨_, List.mem_cons_self ..⟩
    by_cases hGentle : c.Gentle
    · apply Or.inl
      show (giveUpWrite _ _ .caller e).ending = _
      apply giveUpWrite_ending_of_gentle
      · exact (rfl : _ = c.pending.insert _ .caller)
      · exact hGentle
      · exact hOpen
    · exact (giveUpWrite_ending _ _ .caller e).symm.imp_right fun hAborted => ⟨hAborted, hGentle⟩

/-- Asked for a body, the decoder reports the fault and stays as it is. -/
def Faulty (c : Connection σ) (fault : Frame.Fault) : Prop :=
  c.decoder.next = (.error fault, c.decoder)

omit [Transport σ] in
theorem Faulty.of_decoder (h : c.Faulty fault) (hSame : c'.decoder = c.decoder) :
    c'.Faulty fault := by
  rw [Faulty, hSame]
  exact h

/-- Only a read gives the decoder more bytes, and none is made while a fault is in front. -/
theorem Move.decoder_of_faulty (move : Move c tickets events c') (h : c.Faulty fault) :
    c'.decoder = c.decoder := by
  cases move with
  | ask hOpen => exact congrArg Prod.snd h
  | read deadline hOpen hWaits =>
      rw [h] at hWaits
      cases hWaits
  | look => rfl
  | write => rfl
  | hand => rfl
  | refuse => rfl
  | close => rfl

theorem Course.decoder_of_faulty (course : Course c tickets events c') (h : c.Faulty fault) :
    c'.decoder = c.decoder := by
  induction course with
  | stay c => rfl
  | last move => exact move.decoder_of_faulty h
  | step move calm rest ih =>
      have hSame := move.decoder_of_faulty h
      exact (ih (h.of_decoder hSame)).trans hSame

theorem afterwards_faulty (h : c.Faulty fault) (steps : List (Step σ)) :
    (c.afterwards steps).Faulty fault := by
  induction steps generalizing c with
  | nil => exact h
  | cons step steps ih =>
      apply ih
      cases step with
      | call what => exact h.of_decoder ((c.perform_follows what).course.decoder_of_faulty h)
      | «meanwhile» change => exact h

theorem Polling.faulty {deadline : Option Instant} {rounds : Nat} {polled : Bool}
    {o : Outcome σ Bool} (h : Polling deadline rounds polled c o)
    (hMet : o.ending = .failed (.protocol (.frame fault))) :
    o.connection.Faulty fault ∧ o.connection.closed = c.closed := by
  induction h with
  | stalled => cases hMet
  | fault rounds polled c f hNext =>
      obtain rfl : f = fault := by simpa [finish] using hMet
      have hAgain := Frame.Decoder.next_next_of_no_body (d := c.decoder) (by simp [hNext])
      refine ⟨?_, rfl⟩
      show c.decoder.next.2.next = (.error f, c.decoder.next.2)
      rw [hAgain, ← hNext]
  | body rounds polled c body hNext =>
      have hEnding := dispatch_ending { c with decoder := c.decoder.next.2 } body
      rw [hMet] at hEnding
      simp at hEnding
  | late => cases hMet
  | failed rounds polled c t t' e hNext hLooks hRead =>
      have hEnding := giveUpRead_ending { c with decoder := c.decoder.next.2, transport := t' } e
        (α := Bool)
      change (giveUpRead { c with decoder := c.decoder.next.2, transport := t' } e :
        Outcome σ Bool).ending = _ at hMet
      rw [hMet] at hEnding
      simp at hEnding
  | more rounds polled c t t' chunk o hNext hLooks hRead rest ih => exact ih hMet

theorem poll_faulty {deadline : Option Instant}
    (hMet : (c.poll deadline).ending = .failed (.protocol (.frame fault))) :
    (c.poll deadline).connection.Faulty fault ∧ (c.poll deadline).connection.closed = false := by
  cases hClosed : c.closed with
  | true =>
      simp only [poll, hClosed, if_true] at hMet
      cases hMet
  | false => exact hClosed ▸ (poll_polling hClosed deadline).faulty hMet

theorem Awaiting.faulty {id : String} {limit : Option Limit} {rounds : Nat} {polled : Bool}
    {o : Outcome σ Response} (h : Awaiting id limit rounds polled c o)
    (hMet : o.ending = .failed (.protocol (.frame fault))) :
    o.connection.Faulty fault ∧ o.connection.closed = false := by
  induction h with
  | stalled | late | found => cases hMet
  | broken rounds polled c t o ending hLooks hPoll hEnding =>
      obtain rfl : ending = _ := hMet
      have hPolled : o.ending = .failed (.protocol (.frame fault)) := by
        generalize o.ending = polled at hEnding
        cases hEnding
        rfl
      subst hPoll
      exact poll_faulty hPolled
  | more rounds polled c t o dispatched o' hLooks hPoll hEnding hNotFound rest ih => exact ih hMet

theorem sendTo_ending_ne_fault (c : Connection σ) (method : Method) (target : String)
    (payload : Bytes) (r : Recipient) :
    (c.sendTo method target payload r).ending ≠ .failed (.protocol (.frame fault)) := by
  intro hMet
  unfold sendTo at hMet
  split at hMet
  · cases hMet
  · split at hMet
    · cases hr : r.aborts <;> simp [Recipient.allow, hr] at hMet
    · rcases c.issue_cases method target payload r with ⟨-, hSent⟩ | ⟨e, -, hSent⟩
      · rw [hSent] at hMet
        cases hMet
      · rw [hSent] at hMet
        rcases giveUpWrite_ending (σ := σ) _ (Decimal.text c.nextId) r e with hEnding | hEnding
        · cases hEnding.symm.trans hMet
        · cases hEnding.symm.trans hMet

theorem sendWait_faulty {method : Method} {target : String} {payload : Bytes}
    {limit : Option Duration}
    (hMet : (c.sendWait method target payload limit).ending = .failed (.protocol (.frame fault))) :
    (c.sendWait method target payload limit).connection.Faulty fault ∧
      (c.sendWait method target payload limit).connection.closed = false := by
  rw [sendWait_eq] at hMet ⊢
  dsimp only at hMet ⊢
  rcases Outcome.failed_of_followedBy hMet with ⟨_, hReturned, hRest⟩ | ⟨hFailed, -⟩
  · rw [hRest] at hMet ⊢
    cases hClosed : c.closed with
    | true =>
        rw [if_pos hClosed] at hMet
        cases hMet
    | false =>
        rw [if_neg (by simp [hClosed])] at hMet ⊢
        exact (await_awaiting ..).faulty hMet
  · exact absurd hFailed (sendTo_ending_ne_fault _ _ _ _ _)

/-- A call that reports a fault leaves the connection open and in front of that fault. -/
theorem perform_faulty {what : Call}
    (hMet : (c.perform what).ending = .failed (.protocol (.frame fault))) :
    (c.perform what).connection.Faulty fault ∧ (c.perform what).connection.closed = false := by
  cases what with
  | send method target payload k =>
      exact absurd (map_ending_eq_failed.1 hMet) (sendTo_ending_ne_fault _ _ _ _ _)
  | check limit => exact poll_faulty (map_ending_eq_failed.1 hMet)
  | sendWait method target payload limit => exact sendWait_faulty (map_ending_eq_failed.1 hMet)
  | close =>
      have hClose := map_ending_eq_failed.1 hMet
      rcases c.close_ending with hEnding | hEnding | ⟨e, hEnding⟩
      · cases hEnding.symm.trans hClose
      · cases hEnding.symm.trans hClose
      · cases hEnding.symm.trans hClose
  | release => exact absurd (map_ending_eq_failed.1 hMet) (c.release_ending_ne_failed _)

/-- A poll that is given a round reports the fault. It makes no read, runs no callback and changes
nothing. -/
theorem poll_of_faulty (h : c.Faulty fault) (hOpen : c.closed = false)
    (hRounds : 0 < Transport.patience c.transport) (deadline : Option Instant) :
    c.poll deadline = c.finish (.failed (.protocol (.frame fault))) := by
  obtain ⟨rounds, hSucc⟩ : ∃ rounds, Transport.patience c.transport = rounds + 1 :=
    ⟨_, (Nat.sub_add_cancel hRounds).symm⟩
  have hNext : c.decoder.next = (.error fault, c.decoder) := h
  rw [poll_of_open hOpen, hSucc, pollWithin_succ, hNext]

theorem check_of_faulty (h : c.Faulty fault) (hOpen : c.closed = false)
    (hRounds : ∀ t : σ, 0 < Transport.patience t) (limit : Option Duration) :
    c.check limit = c.now.2.finish (.failed (.protocol (.frame fault))) := by
  have hLooked : c.now.2.Faulty fault := h
  exact poll_of_faulty hLooked hOpen (hRounds _) _

/-- A wait comes to the fault in its first round, before its deadline is looked at. -/
theorem await_of_faulty (h : c.Faulty fault) (hOpen : c.closed = false)
    (hRounds : 0 < Transport.patience c.transport) (id : String) (limit : Option Limit)
    (rounds : Nat) :
    (await id limit (rounds + 1) false c).ending = .failed (.protocol (.frame fault)) := by
  have hPoll := poll_of_faulty h hOpen hRounds (limit.map Limit.deadline)
  rw [await_of_noReturn rounds (.first _ c.transport) hPoll (.failed _)]
  rfl

/-- A wait for a response of its own reports the fault, or that its request could not be written. -/
theorem sendWait_of_faulty (h : c.Faulty fault) (hOpen : c.closed = false)
    (hRounds : ∀ t : σ, 0 < Transport.patience t) (method : Method) {target : String}
    (payload : Bytes) (limit : Option Duration) (hTarget : target.toList.contains ' ' = false) :
    let o := c.sendWait method target payload limit
    o.ending = .failed (.protocol (.frame fault)) ∨
      ∃ data e, .write data (.error e) ∈ o.trace ∧
        (o.ending = .failed (.io e) ∨ o.ending = .aborted ∧ ¬ c.Gentle) := by
  intro o
  have hNow : c.now.2.closed = false := hOpen
  have hWait := c.sendWait_eq method target payload limit
  have hIssue : c.now.2.sendTo method target payload .caller =
      c.now.2.issue method target payload .caller := by
    simp only [sendTo, hTarget, hNow, Bool.false_eq_true, if_false]
  dsimp only at hWait
  rw [hIssue] at hWait
  change o = _ at hWait
  rcases c.now.2.issue_cases method target payload .caller with ⟨-, hSent⟩ | ⟨e, hAnswer, hSent⟩
  · apply Or.inl
    rw [hWait, hSent, Outcome.followedBy_of_returned rfl, if_neg (by simp [hOpen])]
    apply await_of_faulty
    · exact h
    · exact hOpen
    · exact hRounds _
  · apply Or.inr
    obtain ⟨⟨data, hWrite⟩, hEnding⟩ := issue_ending_of_failed hNow hAnswer
    refine ⟨data, e, ?_⟩
    rcases hEnding with hFailed | ⟨hAborted, hGentle⟩
    · rw [Outcome.followedBy_of_failed hFailed] at hWait
      rw [hWait]
      exact ⟨hWrite, Or.inl rfl⟩
    · rw [Outcome.followedBy_of_aborted hAborted] at hWait
      rw [hWait]
      exact ⟨hWrite, Or.inr ⟨rfl, hGentle⟩⟩

/-- Over any transport whose waits are given a round at all, and with any callbacks: a call that
meets a fault of the stream leaves the connection open, and whatever is done with it or arrives on
it after that, as long as it is open every check reports that fault, makes no read, runs no callback
and leaves the table and the decoder as they are. A wait for a response of its own is told that the
connection is closed when it is, and else reports that fault, or that its request could not be
written; a callback can abort it only where its write has failed. -/
theorem fault_is_final {c : Connection σ} {what : Call} {fault : Frame.Fault}
    (hRounds : ∀ t : σ, 0 < Transport.patience t)
    (hMet : (c.perform what).ending = .failed (.protocol (.frame fault)))
    (steps : List (Step σ)) :
    let met := (c.perform what).connection
    let later := met.afterwards steps
    met.closed = false ∧
    (later.closed = false → ∀ limit,
      let o := later.check limit
      o.ending = .failed (.protocol (.frame fault)) ∧ o.trace = [] ∧
        o.connection.pending = later.pending ∧ o.connection.decoder = later.decoder) ∧
    ∀ method target payload limit, target.toList.contains ' ' = false →
      let o := later.sendWait method target payload limit
      (later.closed = true ∧
        o.ending = .returned (.failure ⟨.connectionClosed, "Connection closed"⟩)) ∨
        o.ending = .failed (.protocol (.frame fault)) ∨
        ∃ data e, .write data (.error e) ∈ o.trace ∧
          (o.ending = .failed (.io e) ∨ o.ending = .aborted ∧ ¬ later.Gentle) := by
  intro met later
  obtain ⟨hFaulty, hOpen⟩ := perform_faulty hMet
  have hLater : later.Faulty fault := afterwards_faulty hFaulty steps
  refine ⟨hOpen, ?_, ?_⟩
  · intro hStillOpen limit
    rw [check_of_faulty hLater hStillOpen hRounds limit]
    exact ⟨rfl, rfl, rfl, rfl⟩
  · intro method target payload limit hTarget
    cases hClosed : later.closed with
    | true =>
        rw [← Response.connectionClosed_eq]
        exact Or.inl ⟨rfl, (sendWait_of_closed hClosed method payload limit hTarget).1⟩
    | false =>
        exact Or.inr (sendWait_of_faulty hLater hClosed hRounds method payload limit hTarget)

/-- A server that writes a count with a letter in it. -/
def nonsense : Script :=
  { reads := [.ok (Utf8.encode "12a 0 Sx")] }

/-- The check that reads the count reports it. After another request, and with a reply to the first
one waiting in the transport, every check reports it again and does not read that reply. -/
theorem fault_is_final_nonsense :
    let c := (withReadChunk 8 nonsense).afterwards [.call (.send .get "a" [] ⟨"a", false⟩)]
    let met := (c.perform (.check none)).connection
    let later := met.afterwards [.call (.send .get "b" [] ⟨"b", false⟩),
      .meanwhile fun s => { s with reads := [.ok (Utf8.encode "4 0 Sx")] }]
    later.pending.ids = ["1", "0"] ∧
      ∀ limit, (later.check limit).ending =
          .failed (.protocol (.frame (.notANumber (Utf8.encode "12a")))) ∧
        (later.check limit).trace = [] := by
  intro c met later
  have hMet : (c.perform (.check none)).ending =
      .failed (.protocol (.frame (.notANumber (Utf8.encode "12a")))) := by rfl
  have hRounds (t : Script) : 0 < Transport.patience t := Nat.succ_pos _
  have hOpen : later.closed = false := by decide +kernel
  have hFinal := fault_is_final hRounds hMet [.call (.send .get "b" [] ⟨"b", false⟩),
    .meanwhile fun s => { s with reads := [.ok (Utf8.encode "4 0 Sx")] }]
  apply And.intro
  · decide +kernel
  · intro limit
    have hCheck := hFinal.2.1 hOpen limit
    exact ⟨hCheck.1, hCheck.2.1⟩

end Connection

end DocWire

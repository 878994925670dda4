import DocWire.Connection.History
import DocWire.Proofs.Connection.Accounts
import DocWire.Transport.Scripted
import Mathlib.Algebra.Group.Nat.Defs

/-! Through every history without aborting callbacks the table holds what was taken on and not yet
answered, and giving the connection up answers the rest. -/

namespace DocWire

variable {σ α β : Type}

/-- Whether an operation ended because of the target it was given. -/
def Outcome.refused (o : Outcome σ α) : Bool :=
  match o.ending with
  | .failed (.invalidTarget _) => true
  | _ => false

@[simp] theorem refused_map (o : Outcome σ α) (f : α → β) : (o.map f).refused = o.refused := by
  obtain ⟨ending, c, events⟩ := o
  cases ending with
  | failed e => cases e <;> rfl
  | _ => rfl

theorem refused_followedBy {o : Outcome σ α} {next : α → Outcome σ β} (h : o.refused = false)
    (hNext : ∀ a, (next a).refused = false) : (o.followedBy next).refused = false := by
  obtain ⟨ending, c, events⟩ := o
  cases ending with
  | returned a => exact hNext a
  | failed e =>
      cases e with
      | invalidTarget fault => cases h
      | _ => rfl
  | aborted => rfl
  | stalled => rfl

namespace Connection

theorem allow_refused (c : Connection σ) (r : Recipient) (a : α) (events : List Event) :
    (⟨r.allow (.returned a), c, events⟩ : Outcome σ α).refused = false := by
  cases hr : r.aborts <;> simp [Outcome.refused, Recipient.allow, hr]

theorem dispatch_refused (c : Connection σ) (body : Bytes) : (c.dispatch body).refused = false := by
  unfold dispatch
  split
  · rfl
  · split
    · rfl
    · exact allow_refused _ _ true _

variable [Transport σ]

theorem closeFor_refused (c : Connection σ) {e : Error} (h : ∀ fault, e ≠ .invalidTarget fault) :
    (c.closeFor e : Outcome σ α).refused = false := by
  unfold closeFor
  dsimp only
  split
  · rfl
  · cases e with
    | invalidTarget fault => exact absurd rfl (h fault)
    | _ => rfl

theorem giveUpWrite_refused (c : Connection σ) (id : String) (r : Recipient) (e : IoError) :
    (c.giveUpWrite id r e).refused = false := by
  unfold giveUpWrite
  dsimp only
  split
  · rfl
  · exact closeFor_refused _ fun _ h => by cases h

/-- A request is refused exactly if there is a space in its target. -/
theorem sendTo_refused (c : Connection σ) (method : Method) (target : String) (payload : Bytes)
    (r : Recipient) :
    (c.sendTo method target payload r).refused = target.toList.contains ' ' := by
  cases hTarget : target.toList.contains ' ' with
  | true =>
      simp only [sendTo, hTarget, if_true]
      rfl
  | false =>
      simp only [sendTo, hTarget, Bool.false_eq_true, if_false]
      split
      · exact allow_refused c r () _
      · unfold issue
        dsimp only
        split
        · rfl
        · exact giveUpWrite_refused _ _ _ _

theorem giveUpRead_refused (c : Connection σ) (e : IoError) :
    (c.giveUpRead e : Outcome σ α).refused = false := by
  unfold giveUpRead
  split
  · exact closeFor_refused c fun _ h => by cases h
  · rfl

theorem Polling.refused {deadline : Option Instant} {rounds : Nat} {polled : Bool}
    {c : Connection σ} {o : Outcome σ Bool} (h : Polling deadline rounds polled c o) :
    o.refused = false := by
  induction h with
  | stalled | fault | late => rfl
  | body rounds polled c body hNext => exact dispatch_refused _ body
  | failed rounds polled c t t' e hNext hLooks hRead => exact giveUpRead_refused _ e
  | more rounds polled c t t' chunk o hNext hLooks hRead rest ih => exact ih

theorem poll_refused (c : Connection σ) (deadline : Option Instant) :
    (c.poll deadline).refused = false := by
  cases hClosed : c.closed with
  | true =>
      simp only [poll, hClosed, if_true]
      rfl
  | false => exact (poll_polling hClosed deadline).refused

theorem Awaiting.refused {id : String} {limit : Option Limit} {rounds : Nat} {polled : Bool}
    {c : Connection σ} {o : Outcome σ Response} (h : Awaiting id limit rounds polled c o) :
    o.refused = false := by
  induction h with
  | stalled | late | found => rfl
  | broken rounds polled c t o ending hLooks hPoll hEnding =>
      have hPolled : o.refused = false := hPoll ▸ poll_refused _ _
      obtain ⟨polled, c', events⟩ := o
      cases hEnding with
      | failed e =>
          cases e with
          | invalidTarget fault => cases hPolled
          | _ => rfl
      | aborted => rfl
      | stalled => rfl
  | more rounds polled c t o dispatched o' hLooks hPoll hEnding hNotFound rest ih => exact ih

theorem sendWait_refused (c : Connection σ) (method : Method) (target : String) (payload : Bytes)
    (limit : Option Duration) :
    (c.sendWait method target payload limit).refused = target.toList.contains ' ' := by
  have hSend := c.now.2.sendTo_refused method target payload .caller
  rw [sendWait_eq]
  cases hTarget : target.toList.contains ' ' with
  | true =>
      simp only [sendTo, hTarget, if_true]
      rfl
  | false =>
      rw [hTarget] at hSend
      refine refused_followedBy hSend ?_
      intro _
      split
      · rfl
      · exact (await_awaiting ..).refused

end Connection

/-- Who waits for the response that a call asks for. -/
def Call.recipient? : Call → Option Recipient
  | .send _ _ _ k => some (.callback k)
  | .sendWait _ _ _ _ => some .caller
  | _ => none

/-- A step whose callback, if it has one, does not abort. -/
def Step.Calm : Step σ → Prop
  | .call (.send _ _ _ k) => k.aborts = false
  | _ => True

/-- Whether a step sends a request for the callback `k`. -/
def Step.sends (k : Callback) : Step σ → Bool
  | .call (.send _ _ _ k') => k' = k
  | _ => false

namespace Connection

variable [Transport σ]

/-- The request that a call takes on, if it asks for a response and is not refused. -/
def takenOn (c : Connection σ) (what : Call) : List Ticket :=
  if (c.perform what).refused then [] else what.recipient?.toList.map c.ticketFor

/-- The requests that are taken on in a history. -/
def accepted (c : Connection σ) : List (Step σ) → List Ticket
  | [] => []
  | .call what :: steps => c.takenOn what ++ accepted (c.perform what).connection steps
  | .meanwhile change :: steps => accepted (c.changing change) steps

theorem takenOn_send (c : Connection σ) (method : Method) {target : String} (payload : Bytes)
    (k : Callback) (hTarget : target.toList.contains ' ' = false) :
    c.takenOn (.send method target payload k) = [c.ticketFor (.callback k)] := by
  have hRefused := c.sendTo_refused method target payload (.callback k)
  rw [hTarget] at hRefused
  simp only [takenOn, perform, send, refused_map, hRefused, Bool.false_eq_true, if_false]
  rfl

theorem takenOn_of_no_recipient (c : Connection σ) {what : Call} (h : what.recipient? = none) :
    c.takenOn what = [] := by
  simp [takenOn, h]

/-- Every call takes a course, which takes on the call's own request and no other. -/
theorem perform_follows (c : Connection σ) (what : Call) :
    Follows c (c.takenOn what) (c.perform what) := by
  cases what with
  | send method target payload k =>
      have hRefused := c.sendTo_refused method target payload (.callback k)
      cases hTarget : target.toList.contains ' ' with
      | true =>
          rw [hTarget] at hRefused
          simp only [takenOn, perform, send, refused_map, hRefused, if_true]
          simp only [sendTo, hTarget, if_true]
          exact (follows_finish c _).map _
      | false =>
          rw [c.takenOn_send method payload k hTarget]
          exact (c.sendTo_follows method payload (.callback k) hTarget).map _
  | check limit =>
      rw [c.takenOn_of_no_recipient rfl]
      exact (c.check_follows limit).map _
  | sendWait method target payload limit =>
      have hRefused := c.sendWait_refused method target payload limit
      cases hTarget : target.toList.contains ' ' with
      | true =>
          rw [hTarget] at hRefused
          simp only [takenOn, perform, refused_map, hRefused, if_true]
          rw [sendWait_eq]
          simp only [sendTo, hTarget, if_true]
          exact Follows.map ⟨.last (.look c), Or.inr calm_nil⟩ _
      | false =>
          rw [hTarget] at hRefused
          simp only [takenOn, perform, refused_map, hRefused, Bool.false_eq_true, if_false]
          exact (c.sendWait_follows method payload limit hTarget).map _
  | close =>
      rw [c.takenOn_of_no_recipient rfl]
      exact c.close_follows.map _
  | release =>
      rw [c.takenOn_of_no_recipient rfl]
      exact c.release_follows.map _

theorem takenOn_calm (c : Connection σ) {what : Call} (h : (Step.call what : Step σ).Calm) :
    ∀ ticket ∈ c.takenOn what, ticket.recipient.aborts = false := by
  intro ticket hTicket
  unfold takenOn at hTicket
  split at hTicket
  · cases hTicket
  · cases what with
    | send method target payload k =>
        obtain rfl : ticket = c.ticketFor (.callback k) := List.mem_singleton.1 hTicket
        exact h
    | sendWait method target payload limit =>
        obtain rfl : ticket = c.ticketFor .caller := List.mem_singleton.1 hTicket
        rfl
    | check limit => cases hTicket
    | close => cases hTicket
    | release => cases hTicket

/-- Calls that bring no aborting callback keep the accounts balanced. -/
theorem Accounts.history {c : Connection σ} {taken : List Ticket} {events : List Event}
    (h : Accounts c taken events) {steps : List (Step σ)} (hCalm : ∀ step ∈ steps, step.Calm) :
    Accounts (c.afterwards steps) (taken ++ c.accepted steps) (events ++ c.traceOf steps) := by
  induction steps generalizing c taken events with
  | nil => simpa [accepted, traceOf, outcomes, afterwards] using h
  | cons step steps ih =>
      have hRest : ∀ step ∈ steps, step.Calm := fun s hs => hCalm s (List.mem_cons_of_mem _ hs)
      cases step with
      | call what =>
          have hCall := h.course (c.perform_follows what).course
            (c.takenOn_calm (hCalm _ (List.mem_cons_self ..)))
          have hEnd := ih hCall hRest
          rw [List.append_assoc, List.append_assoc] at hEnd
          exact hEnd
      | «meanwhile» change => exact ih (h.changing change) hRest

theorem length_accepted_le (c : Connection σ) (steps : List (Step σ)) :
    (c.accepted steps).length ≤ steps.length := by
  induction steps generalizing c with
  | nil => exact Nat.le_refl _
  | cons step steps ih =>
      cases step with
      | call what =>
          have hRest := ih (c.perform what).connection
          have hOne : (c.takenOn what).length ≤ 1 := by
            unfold takenOn
            split
            · exact Nat.zero_le _
            · cases what <;> simp [Call.recipient?]
          simp only [accepted, List.length_append, List.length_cons]
          omega
      | «meanwhile» change =>
          have hRest := ih (c.changing change)
          simp only [accepted, List.length_cons]
          omega

/-- The requests taken on for a callback are the sends of it that were not refused. -/
theorem countP_accepted (c : Connection σ) (steps : List (Step σ)) (k : Callback) :
    (c.accepted steps).countP (·.recipient = .callback k) =
      (steps.zip (c.outcomes steps)).countP fun s => s.1.sends k && !s.2.refused := by
  induction steps generalizing c with
  | nil => rfl
  | cons step steps ih =>
      cases step with
      | call what =>
          have hOne : (c.takenOn what).countP (·.recipient = .callback k) =
              if (Step.call what : Step σ).sends k && !(c.perform what).refused then 1 else 0 := by
            unfold takenOn
            cases hRefused : (c.perform what).refused with
            | true => simp
            | false =>
                cases what <;> simp [Call.recipient?, Step.sends, ticketFor, List.countP_cons]
          rw [accepted, List.countP_append, hOne, ih, outcomes, List.zip_cons_cons,
            List.countP_cons, Nat.add_comm]
          rfl
      | «meanwhile» change =>
          rw [accepted, ih, outcomes, List.zip_cons_cons, List.countP_cons]
          rfl

theorem accepted_append (c : Connection σ) (first rest : List (Step σ)) :
    c.accepted (first ++ rest) = c.accepted first ++ (c.afterwards first).accepted rest := by
  induction first generalizing c with
  | nil => rfl
  | cons step steps ih =>
      cases step with
      | call what =>
          rw [List.cons_append, accepted, accepted, ih, List.append_assoc]
          rfl
      | «meanwhile» change => exact ih _

theorem close_closed (c : Connection σ) : c.close.connection.closed = true := by
  unfold close
  split
  · assumption
  · rfl

theorem release_closed (c : Connection σ) : c.release.connection.closed = true := by
  unfold release
  dsimp only
  split <;> exact c.close_closed

theorem accepted_release (c : Connection σ) (steps : List (Step σ)) :
    c.accepted (steps ++ [.call .release]) = c.accepted steps := by
  rw [accepted_append]
  simp [accepted, takenOn, Call.recipient?]

/-- Giving the connection up answers whoever still waits. -/
theorem Accounts.released {c : Connection σ} {steps : List (Step σ)} {taken : List Ticket}
    {events : List Event} (h : Accounts (c.afterwards (steps ++ [.call .release])) taken events) :
    (answered events).Perm taken := by
  have hClosed : (c.afterwards (steps ++ [.call .release])).closed = true := by
    rw [afterwards_append]
    exact release_closed _
  have hNobody : (c.afterwards (steps ++ [.call .release])).waiting = [] :=
    congrArg Pending.tickets (h.orderly.atRest hClosed)
  have hBalance := h.balance
  rw [hNobody] at hBalance
  exact hBalance

/-- Through every history in which no callback aborts, over any transport, the table holds what was
taken on and not yet answered, under distinct numbers that were given out; no request is answered
twice at any moment; and once the connection is given up every callback has run as often as sends of
it were not refused. -/
theorem answers_each_request_once (transport : σ) (readChunk : Nat) (steps : List (Step σ))
    (hCalm : ∀ step ∈ steps, step.Calm) (hLength : steps.length < 2 ^ 64) :
    let start := withReadChunk readChunk transport
    let c := start.afterwards steps
    let done := start.traceOf steps
    let taken := start.accepted steps
    let whole := start.traceOf (steps ++ [.call .release])
    ((c.waiting ++ answered done).Perm taken ∧
      c.pendingCount + (answered done).length = taken.length) ∧
    (c.pending.ids.Nodup ∧ ∀ id ∈ c.pending.ids, ∃ n < c.nextId, id = Decimal.text n) ∧
    (c.nextId < 2 ^ 64 ∧ c.pending.lookup (Decimal.text c.nextId) = none) ∧
    (∀ seen rest, done = seen ++ rest →
      ((answered seen).filterMap Ticket.id).Nodup ∧
      ∀ ticket, (answered seen).count ticket ≤ taken.count ticket) ∧
    (answered whole).Perm taken ∧
    ∀ k, (answered whole).countP (·.recipient = .callback k) =
      (steps.zip (start.outcomes steps)).countP fun s => s.1.sends k && !s.2.refused := by
  intro start c done taken whole
  have hStart : Accounts start [] [] := withReadChunk_accounts readChunk transport
  have hAccounts : Accounts c taken done := hStart.history hCalm
  have hWhole : (answered whole).Perm taken := by
    have hCalm' : ∀ step ∈ steps ++ [.call .release], step.Calm := by
      intro step hStep
      rcases List.mem_append.1 hStep with hStep | hStep
      · exact hCalm step hStep
      · obtain rfl := List.mem_singleton.1 hStep
        trivial
    have hEnd := hStart.history hCalm'
    rw [start.accepted_release] at hEnd
    exact hEnd.released
  refine ⟨⟨hAccounts.balance, ?_⟩, ⟨hAccounts.orderly.distinct, hAccounts.orderly.numbered⟩,
    ⟨?_, Pending.lookup_eq_none hAccounts.orderly.fresh⟩, ?_, hWhole, ?_⟩
  · have hCount := hAccounts.balance.length_eq
    have hWaiting : c.waiting.length = c.pendingCount := List.length_map ..
    rw [List.length_append, hWaiting] at hCount
    exact hCount
  · calc
      c.nextId ≤ taken.length := hAccounts.nextId_le
      _ ≤ steps.length := start.length_accepted_le steps
      _ < 2 ^ 64 := hLength
  · intro seen rest hDone
    rw [hDone] at hAccounts
    exact hAccounts.moment
  · intro k
    rw [hWhole.countP_eq]
    exact start.countP_accepted steps k

/-- Of three sends one is refused, one fails when the connection is closed, and one finds it closed
already. -/
theorem answers_each_request_once_script :
    let k : Callback := ⟨"k", false⟩
    let steps : List (Step Script) :=
      [.call (.send .get "a" [] k), .call (.send .get "b c" [] k), .call .close,
        .call (.send .get "d" [] k)]
    (answered ((withReadChunk 1 ({} : Script)).traceOf (steps ++ [.call .release]))).countP
      (·.recipient = .callback k) = 2 := by
  intro k steps
  have hRuns := (answers_each_request_once ({} : Script) 1 steps
    (by simp [steps, k, Step.Calm]) (by decide)).2.2.2.2.2 k
  rw [hRuns]
  rfl

end Connection

end DocWire

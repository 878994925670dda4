import DocWire.Proofs.Connection.Moves

/-! The few ways in which the operations that do not poll end. -/

namespace DocWire

variable {σ α β : Type}

@[simp] theorem map_ending_eq_failed {o : Outcome σ α} {f : α → β} {e : Error} :
    (o.map f).ending = .failed e ↔ o.ending = .failed e := by
  obtain ⟨ending, c, events⟩ := o
  cases ending <;> simp [Outcome.map, Outcome.endingWith, Ending.map]

namespace Ending

variable {ending : Ending α} {a : α} {limit : Duration}

def returned? : Ending α → Option α
  | .returned a => some a
  | _ => none

def timedOut? : Ending α → Option Duration
  | .failed (.timeout limit) => some limit
  | _ => none

theorem returned?_eq_some_iff : ending.returned? = some a ↔ ending = .returned a := by
  cases ending <;> simp [returned?]

theorem timedOut?_eq_some_iff :
    ending.timedOut? = some limit ↔ ending = .failed (.timeout limit) := by
  cases ending with
  | failed e => cases e <;> simp [timedOut?]
  | _ => simp [timedOut?]

end Ending

namespace Connection

theorem dispatch_ending (c : Connection σ) (body : Bytes) :
    (c.dispatch body).ending = .failed (.protocol .noId) ∨
      (∃ id, (c.dispatch body).ending = .failed (.protocol (.unknownId id))) ∨
      (c.dispatch body).ending = .aborted ∨ (c.dispatch body).ending = .returned true := by
  unfold dispatch
  split
  · exact Or.inl rfl
  next reply hReply =>
    split
    · exact Or.inr (Or.inl ⟨reply.id, rfl⟩)
    next r hWaits => cases hr : r.aborts <;> simp [Recipient.allow, hr]

variable [Transport σ]

theorem close_ending (c : Connection σ) :
    c.close.ending = .aborted ∨ c.close.ending = .returned () ∨
      ∃ e, c.close.ending = .failed (.io e) := by
  unfold close
  split
  · exact Or.inr (Or.inl rfl)
  · dsimp only
    split
    · exact Or.inl rfl
    · split
      · exact Or.inr (Or.inl rfl)
      next e hAnswer => exact Or.inr (Or.inr ⟨e, rfl⟩)

/-- Giving a connection up reports no failure. -/
theorem release_ending_ne_failed (c : Connection σ) (e : Error) : c.release.ending ≠ .failed e := by
  unfold release
  dsimp only
  split
  · intro h
    cases h
  next hEnding => exact hEnding e

theorem closeFor_ending (c : Connection σ) (e : Error) :
    (c.closeFor e : Outcome σ α).ending = .aborted ∨
      (c.closeFor e : Outcome σ α).ending = .failed e := by
  unfold closeFor
  dsimp only
  split
  · exact Or.inl rfl
  · exact Or.inr rfl

theorem giveUpRead_ending (c : Connection σ) (e : IoError) :
    (c.giveUpRead e : Outcome σ α).ending = .aborted ∨
      (c.giveUpRead e : Outcome σ α).ending = .failed .connectionLost ∨
      (c.giveUpRead e : Outcome σ α).ending = .failed (.io e) := by
  unfold giveUpRead
  split
  · exact (closeFor_ending c .connectionLost).imp_right Or.inl
  · exact Or.inr (Or.inr rfl)

/-- A failed write is reported, unless a callback aborts. -/
theorem giveUpWrite_ending (c : Connection σ) (id : String) (r : Recipient) (e : IoError) :
    (c.giveUpWrite id r e).ending = .aborted ∨ (c.giveUpWrite id r e).ending = .failed (.io e) := by
  cases hr : r.aborts with
  | true =>
      simp only [giveUpWrite, hr, if_true]
      exact Or.inl trivial
  | false =>
      simp only [giveUpWrite, hr, Bool.false_eq_true, if_false]
      exact closeFor_ending _ (.io e)

/-- A request on an open connection is written, or its write fails. -/
theorem issue_cases (c : Connection σ) (method : Method) (target : String) (payload : Bytes)
    (r : Recipient) :
    let id := Decimal.text c.nextId
    let written := Transport.write (Request.encode ⟨id, method, target, payload⟩) c.transport
    let sent := { c with
      transport := written.2, nextId := c.nextId + 1, pending := c.pending.insert id r }
    let event := Event.write (Request.encode ⟨id, method, target, payload⟩) written.1
    (written.1 = .ok () ∧ c.issue method target payload r = ⟨.returned (), sent, [event]⟩) ∨
      ∃ e, written.1 = .error e ∧
        c.issue method target payload r = (sent.giveUpWrite id r e).after [event] := by
  simp only [issue]
  split
  next hAnswer => exact Or.inl ⟨hAnswer, rfl⟩
  next e hAnswer => exact Or.inr ⟨e, hAnswer, rfl⟩

/-- A request that an open connection sends has been written under the next number, and its
recipient waits. -/
theorem sendTo_of_returned {c : Connection σ} (hOpen : c.closed = false) (method : Method)
    (target : String) (payload : Bytes) (r : Recipient)
    (hEnding : (c.sendTo method target payload r).ending = .returned ()) :
    ∃ data answer, c.sendTo method target payload r =
      ⟨.returned (), { c with
        transport := (Transport.write data c.transport).2
        nextId := c.nextId + 1
        pending := c.pending.insert (Decimal.text c.nextId) r }, [.write data answer]⟩ := by
  have hGoesOn : ¬ c.closed = true := by simp [hOpen]
  unfold sendTo at hEnding ⊢
  split at hEnding
  · cases hEnding
  next hTarget =>
    rw [if_neg hTarget, if_neg hGoesOn]
    rcases c.issue_cases method target payload r with ⟨-, hIssue⟩ | ⟨e, -, hIssue⟩
    · exact ⟨_, _, hIssue⟩
    · rw [hIssue] at hEnding
      rcases giveUpWrite_ending (σ := σ) _ (Decimal.text c.nextId) r e with h | h
      · cases h.symm.trans hEnding
      · cases h.symm.trans hEnding

end Connection

end DocWire

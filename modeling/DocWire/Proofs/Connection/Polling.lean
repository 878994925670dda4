import DocWire.Connection

/-! How polls and waits go, round by round. In a round of a poll the decoder is asked; while it
waits for more bytes the clock is looked at, if there is a deadline and bytes have been read, and
then a read is made. In a round of a wait the clock is looked at in the same way, and then a poll is
made. -/

namespace DocWire

/-- An ending without a result, which is one for results of any type. -/
inductive Ending.NoReturn {α β : Type} : Ending α → Ending β → Prop where
  | failed (e : Error) : NoReturn (.failed e) (.failed e)
  | aborted : NoReturn .aborted .aborted
  | stalled : NoReturn .stalled .stalled

theorem Ending.returned_or_noReturn {α β : Type} (ending : Ending α) :
    (∃ a, ending = .returned a) ∨ ∃ other : Ending β, ending.NoReturn other := by
  cases ending with
  | returned a => exact .inl ⟨a, rfl⟩
  | failed e => exact .inr ⟨_, .failed e⟩
  | aborted => exact .inr ⟨_, .aborted⟩
  | stalled => exact .inr ⟨_, .stalled⟩

namespace Connection

variable {σ : Type} [Transport σ] {deadline : Option Instant} {rounds rounds' : Nat} {polled : Bool}
  {c : Connection σ} {o : Outcome σ Bool}

/-- A look at the clock, from one state of the transport to the next, and whether the deadline has
come. Without a deadline the clock is not looked at. -/
inductive Looks : (deadline : Option Instant) → σ → (late : Bool) → σ → Prop where
  | unlimited (t : σ) : Looks none t false t
  | clock (d : Instant) (t : σ) :
      Looks (some d) t (Instant.passed (some d) (Transport.now t).1) (Transport.now t).2

theorem Looks.before {d : Instant} {t : σ}
    (h : Instant.passed (some d) (Transport.now t).1 = false) :
    Looks (some d) t false (Transport.now t).2 :=
  h ▸ .clock d t

/-- The clock belongs to the transport. Looking at it changes nothing else. -/
theorem Looks.expired {late : Bool} {t : σ} (h : Looks deadline c.transport late t) :
    c.expired deadline = (late, { c with transport := t }) := by
  cases h <;> rfl

theorem Looks.unique {late late' : Bool} {t t' t'' : σ} (h : Looks deadline t late t')
    (h' : Looks deadline t late' t'') : late = late' ∧ t' = t'' := by
  cases h <;> cases h' <;> exact ⟨rfl, rfl⟩

/-- Without a deadline no look is made. -/
theorem Looks.of_none {polled late : Bool} {t t' : σ}
    (h : Looks (if polled then none else none) t late t') : late = false ∧ t' = t := by
  rw [ite_self] at h
  exact h.unique (.unlimited t)

/-- Before the first read of a poll and before the first poll of a wait no look is made. -/
theorem Looks.first (deadline : Option Instant) (t : σ) :
    Looks (if false then deadline else none) t false t :=
  .unlimited t

theorem exists_looks (deadline : Option Instant) (t : σ) :
    ∃ late t', Looks deadline t late t' := by
  cases deadline with
  | none => exact ⟨_, _, .unlimited t⟩
  | some d => exact ⟨_, _, .clock d t⟩

/-- What a poll comes to that is given some rounds and has read before or has not. The clock is
looked at only after a read, and only then can the deadline end the poll. -/
inductive Polling (deadline : Option Instant) :
    (rounds : Nat) → (polled : Bool) → Connection σ → Outcome σ Bool → Prop where
  | stalled (polled : Bool) (c : Connection σ) : Polling deadline 0 polled c (c.finish .stalled)
  | fault (rounds : Nat) (polled : Bool) (c : Connection σ) (f : Frame.Fault)
      (hNext : c.decoder.next.1 = .error f) :
      Polling deadline (rounds + 1) polled c
        (finish { c with decoder := c.decoder.next.2 } (.failed (.protocol (.frame f))))
  | body (rounds : Nat) (polled : Bool) (c : Connection σ) (body : Bytes)
      (hNext : c.decoder.next.1 = .ok (some body)) :
      Polling deadline (rounds + 1) polled c (dispatch { c with decoder := c.decoder.next.2 } body)
  | late (rounds : Nat) (polled : Bool) (c : Connection σ) (t : σ)
      (hNext : c.decoder.next.1 = .ok none)
      (hLooks : Looks (if polled then deadline else none) c.transport true t) :
      Polling deadline (rounds + 1) polled c
        (finish { c with decoder := c.decoder.next.2, transport := t } (.returned false))
  | failed (rounds : Nat) (polled : Bool) (c : Connection σ) (t t' : σ) (e : IoError)
      (hNext : c.decoder.next.1 = .ok none)
      (hLooks : Looks (if polled then deadline else none) c.transport false t)
      (hRead : Transport.read c.readChunk deadline t = (.error e, t')) :
      Polling deadline (rounds + 1) polled c
        ((giveUpRead { c with decoder := c.decoder.next.2, transport := t' } e).after
          [.read c.readChunk deadline (.error e)])
  | more (rounds : Nat) (polled : Bool) (c : Connection σ) (t t' : σ) (chunk : Bytes)
      (o : Outcome σ Bool) (hNext : c.decoder.next.1 = .ok none)
      (hLooks : Looks (if polled then deadline else none) c.transport false t)
      (hRead : Transport.read c.readChunk deadline t = (.ok chunk, t'))
      (rest : Polling deadline rounds true
        { c with decoder := c.decoder.next.2.push chunk, transport := t' } o) :
      Polling deadline (rounds + 1) polled c (o.after [.read c.readChunk deadline (.ok chunk)])

/-- One round of polling. -/
theorem pollWithin_succ (deadline : Option Instant) (rounds : Nat) (polled : Bool)
    (c : Connection σ) :
    pollWithin deadline (rounds + 1) polled c =
      let asked := { c with decoder := c.decoder.next.2 }
      match c.decoder.next.1 with
      | .error fault => asked.finish (.failed (.protocol (.frame fault)))
      | .ok (some body) => asked.dispatch body
      | .ok none =>
        let looked := asked.expired (if polled then deadline else none)
        if looked.1 then looked.2.finish (.returned false)
        else
          let answered := Transport.read looked.2.readChunk deadline looked.2.transport
          let read := { looked.2 with transport := answered.2 }
          let event := Event.read looked.2.readChunk deadline answered.1
          match answered.1 with
          | .error e => (read.giveUpRead e).after [event]
          | .ok chunk =>
            (pollWithin deadline rounds true
              { read with decoder := read.decoder.push chunk }).after [event] :=
  rfl

/-- A round in which the decoder waits for more bytes. -/
theorem pollWithin_of_looks {late : Bool} {t : σ} (rounds : Nat)
    (hNext : c.decoder.next.1 = .ok none)
    (hLooks : Looks (if polled then deadline else none) c.transport late t) :
    pollWithin deadline (rounds + 1) polled c =
      if late then
        finish { c with decoder := c.decoder.next.2, transport := t } (.returned false)
      else
        let answered := Transport.read c.readChunk deadline t
        let read := { c with decoder := c.decoder.next.2, transport := answered.2 }
        let event := Event.read c.readChunk deadline answered.1
        match answered.1 with
        | .error e => (read.giveUpRead e).after [event]
        | .ok chunk =>
          (pollWithin deadline rounds true
            { read with decoder := read.decoder.push chunk }).after [event] := by
  rw [pollWithin_succ, hNext]
  dsimp only
  rw [Looks.expired (c := { c with decoder := c.decoder.next.2 }) hLooks]

theorem pollWithin_polling (deadline : Option Instant) (rounds : Nat) (polled : Bool)
    (c : Connection σ) :
    Polling deadline rounds polled c (pollWithin deadline rounds polled c) := by
  induction rounds generalizing polled c with
  | zero => exact .stalled polled c
  | succ rounds ih =>
      cases hNext : c.decoder.next.1 with
      | error f =>
          rw [pollWithin_succ, hNext]
          exact .fault rounds polled c f hNext
      | ok found =>
          cases found with
          | some body =>
              rw [pollWithin_succ, hNext]
              exact .body rounds polled c body hNext
          | none =>
              obtain ⟨late, t, hLooks⟩ :=
                exists_looks (if polled then deadline else none) c.transport
              rw [pollWithin_of_looks rounds hNext hLooks]
              cases late with
              | true => exact .late rounds polled c t hNext hLooks
              | false =>
                  rw [if_neg Bool.false_ne_true]
                  rcases hRead : Transport.read c.readChunk deadline t with ⟨answer, t'⟩
                  cases answer with
                  | error e => exact .failed rounds polled c t t' e hNext hLooks hRead
                  | ok chunk =>
                      exact .more rounds polled c t t' chunk _ hNext hLooks hRead (ih true _)

/-- What a poll comes to is the same with more rounds than it needs. -/
theorem Polling.pollWithin_eq (h : Polling deadline rounds polled c o)
    (hEnds : o.ending ≠ .stalled) (more : Nat) :
    pollWithin deadline (rounds + more) polled c = o := by
  induction h with
  | stalled => exact absurd rfl hEnds
  | fault rounds polled c f hNext => rw [Nat.add_right_comm, pollWithin_succ, hNext]
  | body rounds polled c body hNext => rw [Nat.add_right_comm, pollWithin_succ, hNext]
  | late rounds polled c t hNext hLooks =>
      rw [Nat.add_right_comm, pollWithin_of_looks _ hNext hLooks]
      rfl
  | failed rounds polled c t t' e hNext hLooks hRead =>
      rw [Nat.add_right_comm, pollWithin_of_looks _ hNext hLooks, hRead]
      rfl
  | more rounds polled c t t' chunk o hNext hLooks hRead rest ih =>
      rw [Nat.add_right_comm, pollWithin_of_looks _ hNext hLooks, hRead]
      exact congrArg (Outcome.after · _) (ih hEnds)

/-- Two polls that come to an end come to the same, whatever rounds they are given. -/
theorem Polling.unique {o' : Outcome σ Bool} (h : Polling deadline rounds polled c o)
    (h' : Polling deadline rounds' polled c o') (hEnds : o.ending ≠ .stalled)
    (hEnds' : o'.ending ≠ .stalled) : o = o' := by
  rw [← h.pollWithin_eq hEnds rounds', ← h'.pollWithin_eq hEnds' rounds, Nat.add_comm]

theorem poll_of_open (hOpen : c.closed = false) (deadline : Option Instant) :
    c.poll deadline = pollWithin deadline (Transport.patience c.transport) false c := by
  rw [poll, if_neg (by simp [hOpen])]

/-- A poll of an open connection has not read yet. -/
theorem poll_polling (hOpen : c.closed = false) (deadline : Option Instant) :
    Polling deadline (Transport.patience c.transport) false c (c.poll deadline) := by
  rw [poll_of_open hOpen]
  exact pollWithin_polling deadline _ false c

/-- A check looks at the clock, which leaves no event, and then polls. -/
theorem check_of_open (hOpen : c.closed = false) (limit : Option Duration) :
    c.check limit =
      (pollWithin (Instant.deadline c.now.1 limit) (Transport.patience c.now.2.transport) false
        c.now.2).after [] := by
  have hStillOpen : c.now.2.closed = false := hOpen
  exact poll_of_open hStillOpen _

/-- What a wait for the response to a request comes to that is given some rounds and has polled
before or has not. The clock is looked at only after a poll, and only then can the deadline end the
wait. -/
inductive Awaiting (id : String) (limit : Option Limit) :
    (rounds : Nat) → (polled : Bool) → Connection σ → Outcome σ Response → Prop where
  | stalled (polled : Bool) (c : Connection σ) : Awaiting id limit 0 polled c (c.finish .stalled)
  | late (rounds : Nat) (polled : Bool) (c : Connection σ) (t : σ) (bound : Limit)
      (hLimit : limit = some bound)
      (hLooks : Looks (if polled then limit.map Limit.deadline else none) c.transport true t) :
      Awaiting id limit (rounds + 1) polled c
        (finish { c with transport := t } (.failed (.timeout bound.span)))
  | broken (rounds : Nat) (polled : Bool) (c : Connection σ) (t : σ) (o : Outcome σ Bool)
      (ending : Ending Response)
      (hLooks : Looks (if polled then limit.map Limit.deadline else none) c.transport false t)
      (hPoll : poll { c with transport := t } (limit.map Limit.deadline) = o)
      (hEnding : o.ending.NoReturn ending) :
      Awaiting id limit (rounds + 1) polled c (o.endingWith ending)
  | found (rounds : Nat) (polled : Bool) (c : Connection σ) (t : σ) (o : Outcome σ Bool)
      (dispatched : Bool) (response : Response)
      (hLooks : Looks (if polled then limit.map Limit.deadline else none) c.transport false t)
      (hPoll : poll { c with transport := t } (limit.map Limit.deadline) = o)
      (hEnding : o.ending = .returned dispatched)
      (hFound : o.trace.findSome? (responseFor? id) = some response) :
      Awaiting id limit (rounds + 1) polled c (o.endingWith (.returned response))
  | more (rounds : Nat) (polled : Bool) (c : Connection σ) (t : σ) (o : Outcome σ Bool)
      (dispatched : Bool) (o' : Outcome σ Response)
      (hLooks : Looks (if polled then limit.map Limit.deadline else none) c.transport false t)
      (hPoll : poll { c with transport := t } (limit.map Limit.deadline) = o)
      (hEnding : o.ending = .returned dispatched)
      (hNotFound : o.trace.findSome? (responseFor? id) = none)
      (rest : Awaiting id limit rounds true o.connection o') :
      Awaiting id limit (rounds + 1) polled c (o'.after o.trace)

variable {id : String} {limit : Option Limit} {late : Bool} {t : σ}

theorem await_of_late {bound : Limit} (rounds : Nat) (hLimit : limit = some bound)
    (hLooks : Looks (if polled then limit.map Limit.deadline else none) c.transport true t) :
    await id limit (rounds + 1) polled c =
      finish { c with transport := t } (.failed (.timeout bound.span)) := by
  subst hLimit
  rw [await]
  dsimp only
  rw [Looks.expired hLooks]

/-- A round of a wait in which the deadline has not come. -/
theorem await_of_early (rounds : Nat)
    (hLooks : Looks (if polled then limit.map Limit.deadline else none) c.transport false t) :
    await id limit (rounds + 1) polled c =
      let o := poll { c with transport := t } (limit.map Limit.deadline)
      match o.ending with
      | .failed e => o.endingWith (.failed e)
      | .aborted => o.endingWith .aborted
      | .stalled => o.endingWith .stalled
      | .returned _ =>
        match o.trace.findSome? (responseFor? id) with
        | some response => o.endingWith (.returned response)
        | none => (await id limit rounds true o.connection).after o.trace := by
  rw [await]
  dsimp only
  rw [Looks.expired hLooks]
  cases limit <;> rfl

theorem await_of_noReturn {o : Outcome σ Bool} {ending : Ending Response} (rounds : Nat)
    (hLooks : Looks (if polled then limit.map Limit.deadline else none) c.transport false t)
    (hPoll : poll { c with transport := t } (limit.map Limit.deadline) = o)
    (hEnding : o.ending.NoReturn ending) :
    await id limit (rounds + 1) polled c = o.endingWith ending := by
  rw [await_of_early rounds hLooks, hPoll]
  generalize hPolled : o.ending = polled at hEnding
  cases hEnding <;> simp only [hPolled]

theorem await_of_returned {o : Outcome σ Bool} {dispatched : Bool} (rounds : Nat)
    (hLooks : Looks (if polled then limit.map Limit.deadline else none) c.transport false t)
    (hPoll : poll { c with transport := t } (limit.map Limit.deadline) = o)
    (hEnding : o.ending = .returned dispatched) :
    await id limit (rounds + 1) polled c =
      match o.trace.findSome? (responseFor? id) with
      | some response => o.endingWith (.returned response)
      | none => (await id limit rounds true o.connection).after o.trace := by
  rw [await_of_early rounds hLooks, hPoll]
  simp only [hEnding]

theorem await_awaiting (id : String) (limit : Option Limit) (rounds : Nat) (polled : Bool)
    (c : Connection σ) : Awaiting id limit rounds polled c (await id limit rounds polled c) := by
  induction rounds generalizing polled c with
  | zero => exact .stalled polled c
  | succ rounds ih =>
      obtain ⟨late, t, hLooks⟩ :=
        exists_looks (if polled then limit.map Limit.deadline else none) c.transport
      cases late with
      | true =>
          cases hLimit : limit with
          | none =>
              rw [hLimit] at hLooks
              cases hLooks.of_none.1
          | some bound =>
              rw [await_of_late rounds rfl (hLimit ▸ hLooks)]
              exact .late rounds polled c t bound rfl (hLimit ▸ hLooks)
      | false =>
          generalize hPoll : poll { c with transport := t } (limit.map Limit.deadline) = o
          rcases o.ending.returned_or_noReturn (β := Response) with
            ⟨dispatched, hEnding⟩ | ⟨ending, hEnding⟩
          · rw [await_of_returned rounds hLooks hPoll hEnding]
            split
            next response hFound =>
              exact .found rounds polled c t o dispatched response hLooks hPoll hEnding hFound
            next hNotFound =>
              exact .more rounds polled c t o dispatched _ hLooks hPoll hEnding hNotFound
                (ih true _)
          · rw [await_of_noReturn rounds hLooks hPoll hEnding]
            exact .broken rounds polled c t o ending hLooks hPoll hEnding

/-- What a wait comes to is the same with more rounds than it needs. -/
theorem Awaiting.await_eq {o : Outcome σ Response} (h : Awaiting id limit rounds polled c o)
    (hEnds : o.ending ≠ .stalled) (more : Nat) : await id limit (rounds + more) polled c = o := by
  induction h with
  | stalled => exact absurd rfl hEnds
  | late rounds polled c t bound hLimit hLooks =>
      rw [Nat.add_right_comm, await_of_late _ hLimit hLooks]
  | broken rounds polled c t o ending hLooks hPoll hEnding =>
      rw [Nat.add_right_comm, await_of_noReturn _ hLooks hPoll hEnding]
  | found rounds polled c t o dispatched response hLooks hPoll hEnding hFound =>
      rw [Nat.add_right_comm, await_of_returned _ hLooks hPoll hEnding, hFound]
  | more rounds polled c t o dispatched o' hLooks hPoll hEnding hNotFound rest ih =>
      rw [Nat.add_right_comm, await_of_returned _ hLooks hPoll hEnding, hNotFound]
      exact congrArg (Outcome.after · _) (ih hEnds)

theorem Awaiting.unique {o o' : Outcome σ Response} (h : Awaiting id limit rounds polled c o)
    (h' : Awaiting id limit rounds' polled c o') (hEnds : o.ending ≠ .stalled)
    (hEnds' : o'.ending ≠ .stalled) : o = o' := by
  rw [← h.await_eq hEnds rounds', ← h'.await_eq hEnds' rounds, Nat.add_comm]

end Connection

end DocWire

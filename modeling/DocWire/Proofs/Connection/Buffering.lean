import DocWire.Proofs.Connection.Calls
import DocWire.Proofs.Connection.Final
import DocWire.Proofs.Frame.Messages
import DocWire.Transport.Loopback
import Mathlib.Order.Nat

/-! A connection reads only while it waits, and then its decoder holds the beginning of a count or
less of a body than a valid count has announced. -/

namespace DocWire

namespace Frame.Decoder

variable {d e : Decoder}

/-- A decoder waits for no body that is too large. -/
def Moderate (d : Decoder) : Prop :=
  ∀ n, d.expected = some n → n ≤ maxSize

theorem next_moderate (h : d.Moderate) : d.next.2.Moderate := by
  have hTaken {s : Bytes} {n : Nat} (hn : n ≤ maxSize) : (takeBody n s).2.Moderate := by
    unfold takeBody
    split
    · rintro m ⟨⟩
      exact hn
    · rintro m ⟨⟩
  unfold next
  split
  next n hn => exact hTaken (h n hn)
  · unfold takeFrame
    split
    · rintro m ⟨⟩
    · rintro m ⟨⟩
    next n rest hHeader =>
      obtain ⟨header, -, -, hn⟩ := header?_eq_some_iff.1 hHeader
      exact hTaken hn

/-- Being asked, a decoder does not hold more than before. -/
theorem buffered_next_le (d : Decoder) : d.next.2.buffered ≤ d.buffered := by
  have hTaken (n : Nat) (s : Bytes) : (takeBody n s).2.buffered ≤ s.length := by
    unfold takeBody
    split
    · exact Nat.le_refl _
    · exact (List.drop_sublist n s).length_le
  have hDropped := d.buffer.length_dropSpaces_le
  unfold next
  split
  next n hn => exact hTaken n d.buffer
  · apply Nat.le_trans _ hDropped
    unfold takeFrame
    split
    · exact Nat.le_refl _
    · exact Nat.le_refl _
    next n rest hHeader => exact (hTaken n rest).trans (length_of_header? hHeader).le

/-- A decoder that waits holds less than the largest body: the beginning of a count, or less than
the body that its count has announced. -/
theorem buffered_of_waiting (h : d.next = (.ok none, d)) (hModerate : d.Moderate) :
    d.buffered ≤ maxSize - 1 := by
  cases hExpected : d.expected with
  | none =>
      obtain ⟨-, hHeader⟩ := header?_of_waiting h hExpected
      have hShort : d.buffer.length ≤ maxHeader := (header?_eq_none_iff.1 hHeader).2
      have hHeaders : maxHeader ≤ maxSize - 1 := by decide
      exact hShort.trans hHeaders
  | some n =>
      have hSize := hModerate n hExpected
      have hLess : d.buffer.length < n := by
        by_contra hWhole
        simp [next, hExpected, takeBody, hWhole] at h
      show d.buffer.length ≤ maxSize - 1
      omega

/-- What a decoder may hold that is given at most `chunk` bytes at a time. -/
structure Within (chunk : Nat) (d : Decoder) : Prop where
  moderate : d.Moderate
  buffered : d.buffered ≤ maxSize - 1 + chunk

variable {chunk : Nat}

theorem within_empty (chunk : Nat) : Within chunk empty :=
  ⟨(fun _ hn => nomatch hn), Nat.zero_le _⟩

theorem Within.next (h : d.Within chunk) : d.next.2.Within chunk :=
  ⟨next_moderate h.moderate, d.buffered_next_le.trans h.buffered⟩

/-- A decoder that is only given more when it waits stays within its bounds. -/
theorem Within.push_of_waiting (h : d.Within chunk) (hWaits : d.next.1 = .ok none) {data : Bytes}
    (hData : data.length ≤ chunk) : (d.next.2.push data).Within chunk := by
  have hModerate := next_moderate h.moderate
  refine ⟨hModerate, ?_⟩
  calc (d.next.2.push data).buffered
      = d.next.2.buffered + data.length := List.length_append
    _ ≤ maxSize - 1 + chunk :=
        Nat.add_le_add (buffered_of_waiting (next_next_of_waiting hWaits) hModerate) hData

/-- What the decoder holds after an event of an operation. It is asked before each read, and gets
what the read brings; it is asked for the body of each response that is handed out. -/
def replay (d : Decoder) : Event → Decoder
  | .read _ _ (.ok chunk) => d.next.2.push chunk
  | .deliver _ => d.next.2
  | _ => d

end Frame.Decoder

def Event.isRead : Event → Bool
  | .read .. => true
  | _ => false

/-- Every read in these events is made of a decoder that is asked for a body in vain. It begins as
`d` and goes on as the events tell. -/
def ReadsInNeed (d : Frame.Decoder) : List Event → Prop
  | [] => True
  | e :: events => (e.isRead = true → d.next.1 = .ok none) ∧ ReadsInNeed (d.replay e) events

variable {d d' : Frame.Decoder} {events : List Event}

theorem readsInNeed_append {first rest : List Event} :
    ReadsInNeed d (first ++ rest) ↔
      ReadsInNeed d first ∧ ReadsInNeed (first.foldl Frame.Decoder.replay d) rest := by
  induction first generalizing d with
  | nil => simp [ReadsInNeed]
  | cons e first ih => simp [ReadsInNeed, ih, and_assoc]

/-- Decoders that give the same answer have the same needs. -/
theorem ReadsInNeed.congr (h : ReadsInNeed d events) (hNext : d'.next = d.next) :
    ReadsInNeed d' events := by
  induction events generalizing d d' with
  | nil => trivial
  | cons e events ih =>
      obtain ⟨hFirst, hRest⟩ := h
      apply And.intro
      · rw [hNext]
        exact hFirst
      · cases e with
        | read n deadline answer =>
            cases answer with
            | ok chunk =>
                simp only [Frame.Decoder.replay, hNext] at hRest ⊢
                exact hRest
            | error e => exact ih hRest hNext
        | deliver delivery =>
            simp only [Frame.Decoder.replay, hNext] at hRest ⊢
            exact hRest
        | write data answer => exact ih hRest hNext
        | close answer => exact ih hRest hNext

theorem readsInNeed_of_no_reads (h : ∀ e ∈ events, e.isRead = false) : ReadsInNeed d events := by
  induction events generalizing d with
  | nil => trivial
  | cons e events ih =>
      obtain ⟨hFirst, hRest⟩ := List.forall_mem_cons.1 h
      exact ⟨fun hRead => absurd (hFirst.symm.trans hRead) Bool.false_ne_true, ih hRest⟩

/-- At each read the decoder has no body to hand out. -/
theorem ReadsInNeed.next_of_read {before after : List Event} {n : Nat} {deadline : Option Instant}
    {answer : Except IoError Bytes}
    (h : ReadsInNeed d (before ++ .read n deadline answer :: after)) :
    (before.foldl Frame.Decoder.replay d).next.1 = .ok none :=
  (readsInNeed_append.1 h).2.1 rfl

namespace Connection

variable {σ α : Type} [Transport σ] {c c' : Connection σ} {tickets : List Ticket}

theorem isRead_close (c : Connection σ) : ∀ e ∈ c.close.trace, e.isRead = false := by
  have hSilent : ∀ e ∈ (deliverAll .connectionClosed c.pending.inOrder).1, e.isRead = false := by
    intro e he
    have hAlone := callsTransport_deliverAll e he
    cases e with
    | deliver d => rfl
    | _ => cases hAlone
  unfold close
  split
  · exact fun e he => absurd he List.not_mem_nil
  · exact List.forall_mem_cons.2 ⟨rfl, hSilent⟩

theorem isRead_closeFor (c : Connection σ) (e : Error) :
    ∀ e' ∈ (c.closeFor e : Outcome σ α).trace, e'.isRead = false := by
  unfold closeFor
  dsimp only
  split <;> exact c.isRead_close

theorem isRead_giveUpWrite (c : Connection σ) (id : String) (r : Recipient) (e : IoError) :
    ∀ e' ∈ (c.giveUpWrite id r e).trace, e'.isRead = false := by
  unfold giveUpWrite
  dsimp only
  split
  · simp [Event.isRead]
  · exact List.forall_mem_cons.2 ⟨rfl, isRead_closeFor _ _⟩

theorem isRead_giveUpRead (c : Connection σ) (e : IoError) :
    ∀ e' ∈ (c.giveUpRead e : Outcome σ α).trace, e'.isRead = false := by
  unfold giveUpRead
  split
  · exact c.isRead_closeFor _
  · exact fun e he => absurd he List.not_mem_nil

theorem isRead_sendTo (c : Connection σ) (method : Method) (target : String) (payload : Bytes)
    (r : Recipient) : ∀ e ∈ (c.sendTo method target payload r).trace, e.isRead = false := by
  unfold sendTo
  split
  · exact fun e he => absurd he List.not_mem_nil
  · split
    · simp [Event.isRead]
    · rcases c.issue_cases method target payload r with ⟨-, hIssue⟩ | ⟨e, -, hIssue⟩
      · rw [hIssue]
        simp [Event.isRead]
      · rw [hIssue]
        exact List.forall_mem_cons.2 ⟨rfl, isRead_giveUpWrite _ _ r e⟩

/-- A poll reads in need only, and its decoder goes on as its events tell. -/
theorem Polling.readsInNeed {deadline : Option Instant} {rounds : Nat} {polled : Bool}
    {o : Outcome σ Bool} (h : Polling deadline rounds polled c o) :
    ReadsInNeed c.decoder o.trace ∧
      ∀ b, o.ending = .returned b →
        (o.trace.foldl Frame.Decoder.replay c.decoder).next = o.connection.decoder.next := by
  induction h with
  | stalled => exact ⟨trivial, fun b hEnding => nomatch hEnding⟩
  | fault => exact ⟨trivial, fun b hEnding => nomatch hEnding⟩
  | body rounds polled c body hNext =>
      unfold dispatch
      split
      · exact ⟨trivial, fun b hEnding => nomatch hEnding⟩
      · split
        · exact ⟨trivial, fun b hEnding => nomatch hEnding⟩
        · exact ⟨⟨(fun hRead => nomatch hRead), trivial⟩, fun b hEnding => rfl⟩
  | late rounds polled c t hNext hLooks =>
      apply And.intro trivial
      intro b hEnding
      show c.decoder.next = c.decoder.next.2.next
      rw [Frame.Decoder.next_next_of_waiting hNext, ← hNext]
  | failed rounds polled c t t' e hNext hLooks hRead =>
      generalize ({ c with decoder := c.decoder.next.2, transport := t' } : Connection σ) = gone
      apply And.intro
      · exact ⟨fun _ => hNext, readsInNeed_of_no_reads (gone.isRead_giveUpRead e)⟩
      · intro b hEnding
        change (gone.giveUpRead e : Outcome σ Bool).ending = _ at hEnding
        rcases gone.giveUpRead_ending e (α := Bool) with h | h | h <;> cases h.symm.trans hEnding
  | more rounds polled c t t' chunk o hNext hLooks hRead rest ih =>
      exact ⟨⟨fun _ => hNext, ih.1⟩, ih.2⟩

theorem poll_readsInNeed (c : Connection σ) (deadline : Option Instant) :
    ReadsInNeed c.decoder (c.poll deadline).trace ∧
      ∀ b, (c.poll deadline).ending = .returned b →
        ((c.poll deadline).trace.foldl Frame.Decoder.replay c.decoder).next =
          (c.poll deadline).connection.decoder.next := by
  cases hClosed : c.closed with
  | true =>
      simp only [poll, hClosed, if_true]
      exact ⟨trivial, fun _ _ => rfl⟩
  | false => exact (poll_polling hClosed deadline).readsInNeed

theorem Awaiting.readsInNeed {id : String} {limit : Option Limit} {rounds : Nat} {polled : Bool}
    {o : Outcome σ Response} (h : Awaiting id limit rounds polled c o) :
    ReadsInNeed c.decoder o.trace := by
  induction h with
  | stalled | late => trivial
  | broken rounds polled c t o ending hLooks hPoll hEnding =>
      exact hPoll ▸ (poll_readsInNeed { c with transport := t } _).1
  | found rounds polled c t o dispatched response hLooks hPoll hEnding hFound =>
      exact hPoll ▸ (poll_readsInNeed { c with transport := t } _).1
  | more rounds polled c t o dispatched o' hLooks hPoll hEnding hNotFound rest ih =>
      obtain ⟨hPolled, hGoesOn⟩ := poll_readsInNeed { c with transport := t } _
      rw [hPoll] at hPolled hGoesOn
      exact readsInNeed_append.2 ⟨hPolled, ih.congr (hGoesOn dispatched hEnding)⟩

theorem sendWait_readsInNeed (c : Connection σ) (method : Method) (target : String)
    (payload : Bytes) (limit : Option Duration) :
    ReadsInNeed c.decoder (c.sendWait method target payload limit).trace := by
  rw [sendWait_eq]
  have hSend : ReadsInNeed c.decoder (c.now.2.sendTo method target payload .caller).trace :=
    readsInNeed_of_no_reads (isRead_sendTo _ _ _ _ _)
  have hSent (hOpen : c.now.2.closed = false) :=
    sendTo_of_returned hOpen method target payload .caller
  dsimp only
  generalize c.now.2.sendTo method target payload .caller = o at hSend hSent ⊢
  unfold Outcome.followedBy
  split
  next _ hEnding =>
    cases hClosed : c.closed with
    | true => exact hSend
    | false =>
        obtain ⟨data, answer, hWritten⟩ := hSent hClosed hEnding
        have hHeld : o.trace.foldl Frame.Decoder.replay c.decoder = o.connection.decoder := by
          rw [hWritten]
          rfl
        apply readsInNeed_append.2
        apply And.intro hSend
        rw [hHeld]
        exact (await_awaiting ..).readsInNeed
  · exact hSend
  · exact hSend
  · exact hSend

/-- Whatever is done with a connection, each of its reads is made in need. -/
theorem perform_readsInNeed (c : Connection σ) (what : Call) :
    ReadsInNeed c.decoder (c.perform what).trace := by
  cases what with
  | send method target payload k => exact readsInNeed_of_no_reads (c.isRead_sendTo _ _ _ _)
  | check limit => exact (c.now.2.poll_readsInNeed _).1
  | sendWait method target payload limit => exact c.sendWait_readsInNeed method target payload limit
  | close => exact readsInNeed_of_no_reads c.isRead_close
  | release =>
      apply readsInNeed_of_no_reads
      show ∀ e ∈ c.release.trace, _
      unfold release
      dsimp only
      split <;> exact c.isRead_close

/-- No read of such a transport brings more than was asked for. -/
def Modest (σ : Type) [Transport σ] : Prop :=
  ∀ n deadline (t t' : σ) chunk, Transport.read n deadline t = (.ok chunk, t') → chunk.length ≤ n

theorem Move.readChunk (move : Move c tickets events c') : c'.readChunk = c.readChunk := by
  cases move with
  | read deadline hOpen hWaits =>
      unfold received
      split <;> rfl
  | look => rfl
  | ask => rfl
  | write => rfl
  | hand => rfl
  | refuse => rfl
  | close => rfl

theorem Course.readChunk (course : Course c tickets events c') : c'.readChunk = c.readChunk := by
  induction course with
  | stay c => rfl
  | last move => exact move.readChunk
  | step move calm rest ih => exact ih.trans move.readChunk

/-- A connection asks for the same number of bytes all its life. -/
theorem afterwards_readChunk (c : Connection σ) (steps : List (Step σ)) :
    (c.afterwards steps).readChunk = c.readChunk := by
  induction steps generalizing c with
  | nil => rfl
  | cons step steps ih =>
      cases step with
      | call what => exact (ih _).trans (c.perform_follows what).course.readChunk
      | «meanwhile» change => exact ih (c.changing change)

theorem Move.within (move : Move c tickets events c') (hModest : Modest σ) {chunk : Nat}
    (hChunk : c.readChunk ≤ chunk) (h : c.decoder.Within chunk) : c'.decoder.Within chunk := by
  cases move with
  | ask hOpen => exact h.next
  | read deadline hOpen hWaits =>
      rcases hRead : Transport.read c.readChunk deadline c.transport with ⟨answer, t'⟩
      cases answer with
      | error e => exact h
      | ok data =>
          have hData := (hModest _ _ _ _ _ hRead).trans hChunk
          have hPushed := h.push_of_waiting (congrArg Prod.fst hWaits) hData
          rwa [hWaits] at hPushed
  | look => exact h
  | write => exact h
  | hand => exact h
  | refuse => exact h
  | close => exact h

theorem Course.within (course : Course c tickets events c') (hModest : Modest σ) {chunk : Nat}
    (hChunk : c.readChunk ≤ chunk) (h : c.decoder.Within chunk) :
    c'.decoder.Within chunk ∧ c'.readChunk ≤ chunk := by
  induction course with
  | stay c => exact ⟨h, hChunk⟩
  | last move => exact ⟨move.within hModest hChunk h, move.readChunk.trans_le hChunk⟩
  | step move calm rest ih =>
      exact ih (move.readChunk.trans_le hChunk) (move.within hModest hChunk h)

/-- No step of a history makes the connection hold too much. -/
theorem afterwards_within (hModest : Modest σ) {chunk : Nat} (hChunk : c.readChunk ≤ chunk)
    (h : c.decoder.Within chunk) (steps : List (Step σ)) :
    (c.afterwards steps).decoder.Within chunk ∧ (c.afterwards steps).readChunk ≤ chunk := by
  induction steps generalizing c with
  | nil => exact ⟨h, hChunk⟩
  | cons step steps ih =>
      cases step with
      | call what =>
          obtain ⟨hWithin, hSame⟩ := (c.perform_follows what).course.within hModest hChunk h
          exact ih hSame hWithin
      | «meanwhile» change => exact ih (c := c.changing change) hChunk h

/-- A read asks the transport for one chunk, and is answered by it. -/
theorem Move.read_of_mem (move : Move c tickets events c') {n : Nat} {deadline : Option Instant}
    {answer : Except IoError Bytes} (h : .read n deadline answer ∈ events) :
    n = c.readChunk ∧ ∃ t t' : σ, Transport.read n deadline t = (answer, t') := by
  cases move with
  | read deadline' hOpen hWaits =>
      obtain ⟨rfl, rfl, rfl⟩ : n = c.readChunk ∧ deadline = deadline' ∧ answer = _ := by
        simpa using h
      exact ⟨rfl, c.transport, _, rfl⟩
  | close hOpen =>
      rcases List.mem_cons.1 h with hClose | hSilent
      · cases hClose
      · cases callsTransport_deliverAll _ hSilent
  | look => cases h
  | ask => cases h
  | write => simp at h
  | hand => simp at h
  | refuse => simp at h

theorem Course.read_of_mem (course : Course c tickets events c') {n : Nat}
    {deadline : Option Instant} {answer : Except IoError Bytes}
    (h : .read n deadline answer ∈ events) :
    n = c.readChunk ∧ ∃ t t' : σ, Transport.read n deadline t = (answer, t') := by
  induction course with
  | stay c => cases h
  | last move => exact move.read_of_mem h
  | step move calm rest ih =>
      rcases List.mem_append.1 h with hFirst | hRest
      · exact move.read_of_mem hFirst
      · exact move.readChunk ▸ ih hRest

omit [Transport σ] in
/-- While an operation goes on its decoder stays within its bounds, if each read is made in need and
brings one chunk at most. -/
theorem held_within {d : Frame.Decoder} {before after : List Event} {chunk : Nat}
    (h : d.Within chunk) (hNeed : ReadsInNeed d (before ++ after))
    (hShort : ∀ n deadline data, .read n deadline (.ok data) ∈ before → data.length ≤ chunk) :
    (before.foldl Frame.Decoder.replay d).Within chunk := by
  induction before generalizing d with
  | nil => exact h
  | cons e before ih =>
      obtain ⟨hFirst, hRest⟩ := hNeed
      refine ih ?_ hRest fun n deadline data hMem => hShort n deadline data (.tail _ hMem)
      cases e with
      | read n deadline answer =>
          cases answer with
          | ok data => exact h.push_of_waiting (hFirst rfl) (hShort n deadline data (.head _))
          | error e => exact h
      | deliver delivery => exact h.next
      | write data answer => exact h
      | close answer => exact h

/-- Over any transport that brings no more than it is asked for, whatever the server sends and
whatever is done: a connection holds less than the largest body and one chunk, and waits for no body
that is larger. That holds at each moment of each operation too, and when a read is made, the bytes
that are held make no frame. -/
theorem holds_less_than_a_body_and_a_read (hModest : Modest σ) (transport : σ) (readChunk : Nat)
    (steps : List (Step σ)) :
    let c := (withReadChunk readChunk transport).afterwards steps
    let bound := Frame.maxSize - 1 + max readChunk 1
    c.buffered ≤ bound ∧ (∀ n, c.decoder.expected = some n → n ≤ Frame.maxSize) ∧
    ∀ what before after, (c.perform what).trace = before ++ after →
      let held := before.foldl Frame.Decoder.replay c.decoder
      held.buffered ≤ bound ∧ (∀ n, held.expected = some n → n ≤ Frame.maxSize) ∧
      ∀ n deadline answer, after.head? = some (.read n deadline answer) →
        held.next.1 = .ok none := by
  intro c bound
  have hStart : (withReadChunk readChunk transport).readChunk ≤ max readChunk 1 := Nat.le_refl _
  obtain ⟨hWithin, hChunk⟩ :=
    afterwards_within hModest hStart (Frame.Decoder.within_empty (max readChunk 1)) steps
  refine ⟨hWithin.buffered, hWithin.moderate, ?_⟩
  intro what before after hTrace held
  have hNeed := c.perform_readsInNeed what
  have hCourse := (c.perform_follows what).course
  rw [hTrace] at hNeed hCourse
  have hHeld : held.Within (max readChunk 1) := by
    apply held_within hWithin hNeed
    intro n deadline data hMem
    obtain ⟨rfl, t, t', hRead⟩ := hCourse.read_of_mem (List.mem_append_left _ hMem)
    exact (hModest _ _ _ _ _ hRead).trans hChunk
  refine ⟨hHeld.buffered, hHeld.moderate, ?_⟩
  intro n deadline answer hHead
  obtain ⟨rest, rfl⟩ := List.head?_eq_some_iff.1 hHead
  exact hNeed.next_of_read

theorem modest_loopback : Modest Loopback := by
  intro n deadline t t' chunk hRead
  change t.read n deadline = _ at hRead
  unfold Loopback.read at hRead
  dsimp only at hRead
  split at hRead
  · cases hRead
    split
    · exact List.length_take_le ..
    next size => exact (List.length_take_le ..).trans (Nat.min_le_right ..)
  · split at hRead
    · cases hRead
    · split at hRead
      · cases hRead
      · cases hRead
        exact Nat.zero_le n

/-- Of a reply its count and one byte have arrived when a check gives up, and later the rest. -/
def inTwoParts : List (Step Loopback) :=
  [.call (.send .get "a" [] ⟨"a", false⟩), .meanwhile (·.push (Utf8.encode "10 0")),
    .call (.check (some ⟨0⟩)), .meanwhile (·.push (Utf8.encode " Sabcdefg"))]

/-- The decoder waits for ten bytes and holds one. With that it can make no frame, and the next
check reads. -/
theorem holds_less_than_a_body_and_a_read_inTwoParts :
    let c := (withReadChunk 5 Loopback.empty).afterwards inTwoParts
    c.decoder = ⟨Utf8.encode "0", some 10⟩ ∧ c.buffered ≤ Frame.maxSize + 4 ∧
      (c.perform (.check none)).trace.map Event.isRead = [true, true, false] ∧
      c.decoder.next.1 = .ok none := by
  intro c
  have hDecoder : c.decoder = ⟨Utf8.encode "0", some 10⟩ := by decide +kernel
  have hReads : (c.perform (.check none)).trace.map Event.isRead = [true, true, false] := by
    decide +kernel
  obtain ⟨hBuffered, -, hMoments⟩ :=
    holds_less_than_a_body_and_a_read modest_loopback Loopback.empty 5 inTwoParts
  refine ⟨hDecoder, hBuffered, hReads, ?_⟩
  cases hTrace : (c.perform (.check none)).trace with
  | nil => simp [hTrace] at hReads
  | cons e rest =>
      cases e with
      | read n deadline answer => exact (hMoments _ [] _ hTrace).2.2 n deadline answer rfl
      | _ => simp [hTrace, Event.isRead] at hReads

end Connection

end DocWire

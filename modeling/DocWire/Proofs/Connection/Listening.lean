import DocWire.Proofs.Connection.Accounts
import DocWire.Proofs.Frame.Wire
import DocWire.Proofs.Transport.Loopback

/-! On a stream of replies, what the decoder holds, what waits in the transport and what is not
there yet are always the rest of that stream. A poll takes the next reply off it or waits in vain.
-/

namespace DocWire

/-- A reply on its way: the spaces in front of its frame, the number of the request and the bytes of
the answer. -/
structure Posting where
  gap : Nat
  number : Nat
  answer : Bytes

namespace Posting

/-- The body of the reply's frame. -/
def body (p : Posting) : Bytes :=
  Utf8.encode (Decimal.text p.number) ++ Bytes.space :: p.answer

/-- The bytes of the reply, with the spaces in front. -/
def bytes (p : Posting) : Bytes :=
  List.replicate p.gap Bytes.space ++ Reply.encode (Decimal.text p.number) p.answer

/-- A reply is read as what was answered to its number. -/
theorem decode?_body (p : Posting) :
    Reply.decode? p.body = some ⟨Decimal.text p.number, Reply.readAnswer p.answer⟩ := by
  rw [Reply.decode?, body, Bytes.splitAtSpace?_append (Decimal.space_notMem_encode_text _)]
  simp [Utf8.decodeLossy_encode]

theorem gap_lt_length_bytes (p : Posting) : p.gap < p.bytes.length := by
  simp only [bytes, Reply.encode, Frame.encode, List.length_append, List.length_replicate,
    List.length_cons]
  omega

end Posting

/-- A stream of replies, with spaces at its end. -/
def wire (postings : List Posting) (tail : Nat) : Bytes :=
  postings.flatMap Posting.bytes ++ List.replicate tail Bytes.space

theorem wire_cons (p : Posting) (postings : List Posting) (tail : Nat) :
    wire (p :: postings) tail = p.bytes ++ wire postings tail := by
  simp [wire]

/-- Asked for a body, a decoder on a stream of replies waits or hands out the next reply. -/
theorem next_of_wire {d : Frame.Decoder} {x : Bytes} {postings : List Posting} {tail : Nat}
    (h : d.Ahead x (wire postings tail))
    (hSizes : ∀ p ∈ postings, p.body.length ≤ Frame.maxSize) :
    (d.next.1 = .ok none ∧ d.next.2.Ahead x (wire postings tail)) ∨
      ∃ p rest, postings = p :: rest ∧ d.next.1 = .ok (some p.body) ∧
        d.next.2.Ahead x (wire rest tail) := by
  cases postings with
  | nil => exact Or.inl (Frame.Decoder.next_of_spaces h)
  | cons p rest =>
      have hWire : wire (p :: rest) tail =
          List.replicate p.gap Bytes.space ++ (Frame.encode p.body ++ wire rest tail) := by
        rw [wire_cons, Posting.bytes, List.append_assoc]
        rfl
      rw [hWire] at h ⊢
      rcases Frame.Decoder.next_of_frame h (hSizes p (List.mem_cons_self ..)) with hWait | hTake
      · exact Or.inl hWait
      · exact Or.inr ⟨p, rest, rfl, hTake⟩

namespace Connection

/-- An open connection over a steady loopback. -/
structure Live (c : Connection Loopback) : Prop where
  isOpen : c.closed = false
  asks : 1 ≤ c.readChunk
  steady : c.transport.Steady

/-- The stream that is still to be handed out is `s`, of which `later` is not there yet. -/
def Expects (c : Connection Loopback) (later s : Bytes) : Prop :=
  c.decoder.Ahead (c.transport.inbound ++ later) s

/-- What a poll leaves as it was. -/
structure Continues (c c' : Connection Loopback) : Prop where
  live : c'.Live
  pending : c'.pending = c.pending
  nextId : c'.nextId = c.nextId

/-- How a poll on a stream of replies ends: in vain, or with the next reply given to the table. -/
inductive Polled (c : Connection Loopback) (postings : List Posting) (tail : Nat) (later : Bytes) :
    Outcome Loopback Bool → Prop where
  | waited (c' : Connection Loopback) (events : List Event) (ending : Ending Bool)
      (hSame : c.Continues c') (hExpects : c'.Expects later (wire postings tail))
      (hQuiet : deliveries events = [])
      (hEnding : ending = .returned false ∨ ∃ e, ending = .failed (.io e)) :
      Polled c postings tail later ⟨ending, c', events⟩
  | took (c' : Connection Loopback) (events : List Event) (p : Posting) (rest : List Posting)
      (hSame : c.Continues c') (hPostings : postings = p :: rest)
      (hExpects : c'.Expects later (wire rest tail)) (hQuiet : deliveries events = []) :
      Polled c postings tail later ((c'.dispatch p.body).after events)

variable {c c' : Connection Loopback} {postings : List Posting} {tail : Nat} {later : Bytes}

theorem Continues.trans {c'' : Connection Loopback} (first : c.Continues c')
    (second : c'.Continues c'') : c.Continues c'' :=
  ⟨second.live, second.pending.trans first.pending, second.nextId.trans first.nextId⟩

theorem Polled.after {o : Outcome Loopback Bool} {events : List Event}
    (h : Polled c' postings tail later o) (hSame : c.Continues c')
    (hQuiet : deliveries events = []) :
    Polled c postings tail later (o.after events) := by
  cases h with
  | waited c'' events' ending hSame' hExpects hQuiet' hEnding =>
      exact .waited c'' (events ++ events') ending (hSame.trans hSame') hExpects
        (deliveries_eq_nil_append hQuiet hQuiet') hEnding
  | took c'' events' p rest hSame' hPostings hExpects hQuiet' =>
      rw [Outcome.after_after]
      exact .took c'' _ p rest (hSame.trans hSame') hPostings hExpects
        (deliveries_eq_nil_append hQuiet hQuiet')

theorem Polled.of_continues {o : Outcome Loopback Bool} (hSame : c.Continues c')
    (h : Polled c' postings tail later o) : Polled c postings tail later o := by
  have hAfter : Polled c postings tail later (o.after []) := h.after hSame rfl
  exact hAfter

/-- Looking at the clock changes nothing of the stream. -/
theorem Looks.loopback {deadline : Option Instant} {late : Bool} {l t : Loopback}
    (h : Looks deadline l late t) : t.inbound = l.inbound ∧ (l.Steady → t.Steady) := by
  cases h with
  | unlimited => exact ⟨rfl, id⟩
  | clock d => exact ⟨rfl, Loopback.Steady.pass⟩

/-- A look finds a deadline gone that had come before it. -/
theorem Looks.late_of_passed {deadline : Option Instant} {late : Bool} {l t : Loopback}
    (h : Looks deadline l late t) (hPassed : Instant.passed deadline l.clock = true) :
    late = true := by
  cases h with
  | unlimited => cases hPassed
  | clock d => exact Instant.passed_of_le l.le_pass_clock hPassed

/-- Enough rounds for everything that waits and for one look at the clock. When nothing waits and
the deadline has come, one round is enough. -/
def Affords (c : Connection Loopback) (deadline : Option Instant) (rounds : Nat) (polled : Bool) :
    Prop :=
  c.transport.inbound.length + 2 ≤ rounds ∨
    1 ≤ rounds ∧ polled = true ∧ Instant.passed deadline c.transport.clock = true

/-- A decoder that waits has taken nothing off the stream. -/
theorem Expects.waiting (h : c.Expects later (wire postings tail))
    (hSizes : ∀ p ∈ postings, p.body.length ≤ Frame.maxSize)
    (hNext : c.decoder.next.1 = .ok none) :
    c.decoder.next.2.Ahead (c.transport.inbound ++ later) (wire postings tail) := by
  rcases next_of_wire h hSizes with ⟨-, hAhead⟩ | ⟨p, rest, -, hTakes, -⟩
  · exact hAhead
  · cases hNext.symm.trans hTakes

/-- A poll takes the next reply off the stream or waits in vain. -/
theorem Polling.polled {deadline : Option Instant} {rounds : Nat} {polled : Bool}
    {o : Outcome Loopback Bool} (h : Polling deadline rounds polled c o)
    (hSizes : ∀ p ∈ postings, p.body.length ≤ Frame.maxSize) (hLive : c.Live)
    (hExpects : c.Expects later (wire postings tail)) (hRounds : c.Affords deadline rounds polled) :
    Polled c postings tail later o := by
  induction h with
  | stalled => rcases hRounds with h | ⟨h, -⟩ <;> omega
  | fault rounds polled c f hNext =>
      rcases next_of_wire hExpects hSizes with ⟨hWaits, -⟩ | ⟨p, rest, -, hTakes, -⟩
      · cases hNext.symm.trans hWaits
      · cases hNext.symm.trans hTakes
  | body rounds polled c body hNext =>
      rcases next_of_wire hExpects hSizes with ⟨hWaits, -⟩ | ⟨p, rest, hP, hTakes, hAhead⟩
      · cases hNext.symm.trans hWaits
      · obtain rfl : body = p.body := by simpa using hNext.symm.trans hTakes
        exact .took _ [] p rest ⟨⟨hLive.isOpen, hLive.asks, hLive.steady⟩, rfl, rfl⟩ hP hAhead rfl
  | late rounds polled c t hNext hLooks =>
      obtain ⟨hInbound, hSteady⟩ := hLooks.loopback
      refine .waited _ [] _ ⟨⟨hLive.isOpen, hLive.asks, hSteady hLive.steady⟩, rfl, rfl⟩ ?_ rfl
        (Or.inl rfl)
      rw [Expects, hInbound]
      exact hExpects.waiting hSizes hNext
  | failed rounds polled c t t' e hNext hLooks hRead =>
      obtain ⟨hInbound, hSteady⟩ := hLooks.loopback
      obtain ⟨rfl, hInbound', hSteady'⟩ := (hSteady hLive.steady).of_read_error hLive.asks hRead
      refine .waited _ [_] _ ⟨⟨hLive.isOpen, hLive.asks, hSteady'⟩, rfl, rfl⟩ ?_ rfl
        (Or.inr ⟨_, rfl⟩)
      have hAhead := hExpects.waiting hSizes hNext
      rwa [← hInbound, ← hInbound'] at hAhead
  | more rounds polled c t t' chunk o hNext hLooks hRead rest ih =>
      obtain ⟨hInbound, hSteady⟩ := hLooks.loopback
      obtain ⟨hSplit, hSteady', hBrings⟩ := (hSteady hLive.steady).of_read_ok hLive.asks hRead
      rw [hInbound] at hSplit hBrings
      have hAhead := hExpects.waiting hSizes hNext
      rw [hSplit, List.append_assoc] at hAhead
      have hLeft : c.transport.inbound.length + 2 ≤ rounds + 1 := by
        rcases hRounds with h | ⟨-, rfl, hPassed⟩
        · exact h
        · exact absurd (hLooks.late_of_passed hPassed) Bool.false_ne_true
      refine (ih ⟨hLive.isOpen, hLive.asks, hSteady'⟩ (Frame.Decoder.ahead_push.2 hAhead) ?_).after
        ⟨⟨hLive.isOpen, hLive.asks, hSteady'⟩, rfl, rfl⟩ rfl
      rcases hBrings with hSome | ⟨hEmpty, hPassed⟩
      · have hLength := congrArg List.length hSplit
        have hPos := List.length_pos_iff.2 hSome
        rw [List.length_append] at hLength
        exact Or.inl (by dsimp only; omega)
      · rw [hEmpty, List.length_nil] at hLeft
        exact Or.inr ⟨by omega, rfl, hPassed⟩

theorem check_polled (hSizes : ∀ p ∈ postings, p.body.length ≤ Frame.maxSize)
    (limit : Option Duration) (hLive : c.Live) (hExpects : c.Expects later (wire postings tail)) :
    Polled c postings tail later (c.check limit) := by
  have hLooked : c.now.2.Live := ⟨hLive.isOpen, hLive.asks, hLive.steady.pass⟩
  have hRounds : c.now.2.Affords (Instant.deadline c.now.1 limit)
      (Transport.patience c.now.2.transport) false := Or.inl (Nat.le_refl _)
  exact ((poll_polling hLooked.isOpen _).polled hSizes hLooked hExpects hRounds).of_continues
    ⟨hLooked, rfl, rfl⟩

end Connection

end DocWire

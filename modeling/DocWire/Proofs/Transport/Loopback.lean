import DocWire.Transport.Loopback

/-! Reads of a steady loopback hand out what waits from the front, at least one byte at a time.
Without waiting bytes a read with a deadline lasts until the deadline, and one without is refused.
-/

namespace DocWire.Loopback

/-- The stream goes on, the server is silent, and bytes are handed out in pieces that are not
empty. -/
structure Steady (l : Loopback) : Prop where
  pieces : ∀ n, l.pieceSize = some n → 1 ≤ n
  goesOn : l.hungUp = false
  silent : l.answers = []

theorem empty_steady : empty.Steady :=
  ⟨by simp [empty], rfl, rfl⟩

variable {l : Loopback}

theorem Steady.push (h : l.Steady) (data : Bytes) : (l.push data).Steady :=
  ⟨h.pieces, h.goesOn, h.silent⟩

theorem Steady.lagging (h : l.Steady) (lags : List Nat) : (l.lagging lags).Steady :=
  ⟨h.pieces, h.goesOn, h.silent⟩

theorem Steady.pass (h : l.Steady) : l.pass.Steady :=
  ⟨h.pieces, h.goesOn, h.silent⟩

theorem Steady.inPiecesOf (h : l.Steady) (n : Nat) : (l.inPiecesOf n).Steady := by
  refine ⟨?_, h.goesOn, h.silent⟩
  intro m hm
  have hSize : max n 1 = m := Option.some.inj hm
  omega

/-- What the clock shows once all lags have passed. -/
def latest (l : Loopback) : Instant :=
  ⟨l.clock.nanos + l.lags.foldr (· + ·) 0⟩

theorem pass_clock_le_latest (l : Loopback) : l.pass.clock.nanos ≤ l.latest.nanos := by
  rcases h : l.lags with _ | ⟨lag, lags⟩ <;> simp [pass, latest, h]

theorem latest_pass (l : Loopback) : l.pass.latest = l.latest := by
  rcases h : l.lags with _ | ⟨lag, lags⟩ <;> simp [pass, latest, h, Nat.add_assoc]

/-- How many bytes a read of `n` bytes hands out at most. -/
def batch (l : Loopback) (n : Nat) : Nat :=
  match l.pieceSize with
  | none => n
  | some size => min size n

/-- Waiting bytes are handed out from the front, whatever the deadline is. -/
theorem read_of_inbound (hWaiting : l.inbound ≠ []) (n : Nat) (deadline : Option Instant) :
    l.read n deadline = (.ok (l.inbound.take (l.batch n)),
      { l.pass with reads := l.reads + 1, inbound := l.inbound.drop (l.batch n) }) := by
  simp only [read, pass, hWaiting, ne_eq, not_false_eq_true, if_true]
  rfl

/-- Waiting bytes are handed out in pieces that are not empty, whether or not the stream ends after
them. -/
theorem read_of_waiting (hPieces : ∀ n, l.pieceSize = some n → 1 ≤ n) {n : Nat} (hn : 1 ≤ n)
    (deadline : Option Instant) (hWaiting : l.inbound ≠ []) :
    ∃ chunk, (l.read n deadline).1 = .ok chunk ∧ chunk ≠ [] ∧
      l.inbound = chunk ++ (l.read n deadline).2.inbound := by
  have hBatch : 1 ≤ l.batch n := by
    unfold batch
    split
    · exact hn
    next size hSize => exact Nat.le_min.2 ⟨hPieces size hSize, hn⟩
  rw [read_of_inbound hWaiting]
  refine ⟨_, rfl, ?_, (List.take_append_drop ..).symm⟩
  intro hNil
  rcases List.take_eq_nil_iff.1 hNil with hZero | hEmpty
  · omega
  · exact hWaiting hEmpty

/-- Without waiting bytes a read lasts until its deadline, if it has one. -/
theorem read_of_empty (h : l.Steady) (n : Nat) (deadline : Option Instant)
    (hEmpty : l.inbound = []) :
    (l.read n deadline).2.inbound = [] ∧
      ((l.read n deadline).1 = .error nothingToRead ∨
        (l.read n deadline).1 = .ok [] ∧
          Instant.passed deadline (l.read n deadline).2.clock = true) := by
  cases deadline with
  | none => simp [read, pass, hEmpty, h.goesOn]
  | some d =>
      have hClock : d.nanos ≤ l.pass.clock.nanos + (d.nanos - l.pass.clock.nanos) := by omega
      simp only [pass] at hClock
      simp [read, pass, hEmpty, h.goesOn, Instant.passed, hClock]

/-- Without waiting bytes a read without a deadline fails, whether or not the stream is over. -/
theorem read_of_nothing (l : Loopback) (hEmpty : l.inbound = []) (n : Nat) :
    ∃ e, (l.read n none).1 = .error e := by
  cases hHungUp : l.hungUp with
  | true => exact ⟨streamEnd, by simp [read, pass, hEmpty, hHungUp]⟩
  | false => exact ⟨nothingToRead, by simp [read, pass, hEmpty, hHungUp]⟩

/-- A read changes nothing that the server has set up. -/
theorem read_settings (l : Loopback) (n : Nat) (deadline : Option Instant) :
    (l.read n deadline).2.pieceSize = l.pieceSize ∧ (l.read n deadline).2.hungUp = l.hungUp ∧
      (l.read n deadline).2.answers = l.answers := by
  by_cases hEmpty : l.inbound = []
  · cases hHungUp : l.hungUp <;> cases deadline <;> simp [read, pass, hEmpty, hHungUp]
  · simp [read, pass, hEmpty]

theorem read_steady (h : l.Steady) (n : Nat) (deadline : Option Instant) :
    (l.read n deadline).2.Steady := by
  obtain ⟨hPieces, hHungUp, hAnswers⟩ := l.read_settings n deadline
  refine ⟨?_, hHungUp.trans h.goesOn, hAnswers.trans h.silent⟩
  rw [hPieces]
  exact h.pieces

/-- A read fails only if no bytes wait, and that changes nothing of what does. -/
theorem Steady.of_read_error (h : l.Steady) {n : Nat} (hn : 1 ≤ n) {deadline : Option Instant}
    {e : IoError} {l' : Loopback} (hRead : l.read n deadline = (.error e, l')) :
    e = nothingToRead ∧ l'.inbound = l.inbound ∧ l'.Steady := by
  have hSteady := read_steady h n deadline
  by_cases hEmpty : l.inbound = []
  · obtain ⟨hNothing, hAnswer⟩ := read_of_empty h n deadline hEmpty
    rw [hRead] at hNothing hAnswer hSteady
    rcases hAnswer with hRefused | ⟨hOk, -⟩
    · exact ⟨Except.error.inj hRefused, hNothing.trans hEmpty.symm, hSteady⟩
    · cases hOk
  · obtain ⟨chunk, hChunk, -⟩ := read_of_waiting h.pieces hn deadline hEmpty
    rw [hRead] at hChunk
    cases hChunk

/-- A read that succeeds hands out bytes from the front, or none after its deadline. -/
theorem Steady.of_read_ok (h : l.Steady) {n : Nat} (hn : 1 ≤ n) {deadline : Option Instant}
    {chunk : Bytes} {l' : Loopback} (hRead : l.read n deadline = (.ok chunk, l')) :
    l.inbound = chunk ++ l'.inbound ∧ l'.Steady ∧
      (chunk ≠ [] ∨ l.inbound = [] ∧ Instant.passed deadline l'.clock = true) := by
  have hSteady := read_steady h n deadline
  by_cases hEmpty : l.inbound = []
  · obtain ⟨hNothing, hAnswer⟩ := read_of_empty h n deadline hEmpty
    rw [hRead] at hNothing hAnswer hSteady
    rcases hAnswer with hRefused | ⟨hOk, hPassed⟩
    · cases hRefused
    · obtain rfl : chunk = [] := Except.ok.inj hOk
      exact ⟨hEmpty.trans hNothing.symm, hSteady, Or.inr ⟨hEmpty, hPassed⟩⟩
  · obtain ⟨chunk', hChunk, hSome, hSplit⟩ := read_of_waiting h.pieces hn deadline hEmpty
    rw [hRead] at hChunk hSplit hSteady
    obtain rfl : chunk = chunk' := Except.ok.inj hChunk
    exact ⟨hSplit, hSteady, Or.inl hSome⟩

theorem receive_steady (h : l.Steady) (body : Bytes) :
    (l.receive body).Steady ∧ (l.receive body).inbound = l.inbound := by
  unfold receive
  split
  · exact ⟨h, rfl⟩
  · refine ⟨⟨h.pieces, h.goesOn, ?_⟩, ?_⟩
    · simp [h.silent]
    · simp [h.silent]

/-- A silent server takes requests and sends nothing. -/
theorem foldl_receive_steady (h : l.Steady) (bodies : List Bytes) :
    (bodies.foldl receive l).Steady ∧ (bodies.foldl receive l).inbound = l.inbound := by
  induction bodies generalizing l with
  | nil => exact ⟨h, rfl⟩
  | cons body bodies ih =>
      obtain ⟨hSteady, hInbound⟩ := receive_steady h body
      obtain ⟨hSteady', hInbound'⟩ := ih hSteady
      exact ⟨hSteady', hInbound'.trans hInbound⟩

theorem write_steady (h : l.Steady) (data : Bytes) :
    (l.write data).2.Steady ∧ (l.write data).2.inbound = l.inbound := by
  unfold write
  split
  · exact ⟨h, rfl⟩
  · have hTaken : Steady { l with
        written := l.written ++ data, decoder := (l.decoder.push data).drain.decoder } :=
      ⟨h.pieces, h.goesOn, h.silent⟩
    have hFold := foldl_receive_steady hTaken (l.decoder.push data).drain.bodies
    dsimp only
    split <;> exact hFold

/-- What a write leaves alone that all requests in it leave alone. -/
theorem write_keeps {α : Type} (f : Loopback → α) (l : Loopback) (data : Bytes)
    (hTaken : ∀ written decoder, f { l with written, decoder } = f l)
    (hReceive : ∀ (l : Loopback) body, f (l.receive body) = f l) : f (l.write data).2 = f l := by
  have hAll (bodies : List Bytes) (l : Loopback) : f (bodies.foldl receive l) = f l := by
    induction bodies generalizing l with
    | nil => rfl
    | cons body bodies ih => exact (ih (l.receive body)).trans (hReceive l body)
  unfold write
  split
  · rfl
  · dsimp only
    split <;> exact (hAll _ _).trans (hTaken _ _)

/-- No time passes while the client writes. -/
theorem write_clock (l : Loopback) (data : Bytes) : (l.write data).2.clock = l.clock := by
  refine l.write_keeps clock data (fun _ _ => rfl) fun l body => ?_
  unfold receive
  split <;> rfl

/-- Bytes are handed out in pieces of the same size after the client has written. -/
theorem write_pieceSize (l : Loopback) (data : Bytes) :
    (l.write data).2.pieceSize = l.pieceSize := by
  refine l.write_keeps pieceSize data (fun _ _ => rfl) fun l body => ?_
  unfold receive
  split <;> rfl

end DocWire.Loopback

import DocWire.Proofs.Transport.Inbox
import DocWire.Proofs.Transport.Loopback

/-! A loopback whose server has hung up and a stream at whose reading end nothing more arrives hand
over their bytes in pieces of any size and then report the end. -/

namespace DocWire

/-- In a state that `Holds` some bytes, reads of at most `n` bytes without a deadline hand those
bytes over in pieces that are not empty, and then report the end of the stream. Looking at the clock
changes nothing of that, and the patience of a wait lasts for the bytes and for the end. -/
structure HandsOver {σ : Type} [Transport σ] (n : Nat) (Holds : σ → Bytes → Prop) : Prop where
  piece : ∀ {t s}, Holds t s → s ≠ [] → ∃ chunk rest, s = chunk ++ rest ∧ chunk ≠ [] ∧
    (Transport.read n none t).1 = .ok chunk ∧ Holds (Transport.read n none t).2 rest
  atEnd : ∀ {t}, Holds t [] →
    ∃ e, (Transport.read n none t).1 = .error e ∧ e.kind = .unexpectedEof
  look : ∀ {t s}, Holds t s → Holds (Transport.now t).2 s
  patient : ∀ {t s}, Holds t s → s.length < Transport.patience t

namespace Loopback

/-- The stream ends after `s`, which is handed out in pieces that are not empty. -/
structure EndsAfter (l : Loopback) (s : Bytes) : Prop where
  hungUp : l.hungUp = true
  inbound : l.inbound = s
  pieces : ∀ n, l.pieceSize = some n → 1 ≤ n

theorem handsOver {n : Nat} (hn : 1 ≤ n) : HandsOver n EndsAfter where
  piece {l s} h hSome := by
    obtain ⟨hPieces, hHungUp, -⟩ := l.read_settings n none
    obtain rfl := h.inbound
    obtain ⟨chunk, hChunk, hNonempty, hSplit⟩ := read_of_waiting h.pieces hn none hSome
    refine ⟨chunk, _, hSplit, hNonempty, hChunk, hHungUp.trans h.hungUp, rfl, ?_⟩
    exact fun m hm => h.pieces m (hPieces.symm.trans hm)
  atEnd {l} h := ⟨streamEnd, by simp [Transport.read, read, pass, h.inbound, h.hungUp], rfl⟩
  look h := ⟨h.hungUp, h.inbound, h.pieces⟩
  patient {l s} h := by
    obtain rfl := h.inbound
    exact Nat.lt_add_of_pos_right (Nat.succ_pos 1)

end Loopback

open Arrival (last? bytesBeforeEnd)

namespace Stream

variable {ω : Type} [Ends ω]

/-- The end of the stream has arrived behind all of its bytes, and `s` is what was not handed out of
them. -/
def EndsAfter (t : Stream ω) (s : Bytes) : Prop :=
  ∃ arrived last delivered, t.settle.inbox.Keeps arrived delivered ∧ last? arrived = some last ∧
    last.report.kind = .unexpectedEof ∧ delivered ++ s = bytesBeforeEnd arrived

/-- A fresh stream holds what its reading end yields before it ends. -/
theorem endsAfter_of_fresh {t : Stream ω} (hFresh : t.inbox = {}) {last : Arrival}
    (hLast : last? (Ends.arrivals t.ends).1 = some last)
    (hEnd : last.report.kind = .unexpectedEof) :
    t.EndsAfter (bytesBeforeEnd (Ends.arrivals t.ends).1) := by
  refine ⟨_, last, [], ?_, hLast, hEnd, List.nil_append _⟩
  rw [settle, hFresh]
  exact Inbox.keeps_empty.foldl_take _

/-- With a complete inbox it makes no difference what the reading end yields. -/
theorem settle_inbox_of_finished {t : Stream ω} (h : t.inbox.finished = true) :
    t.settle.inbox = t.inbox :=
  List.foldl_fixed' (fun a => Inbox.take_of_finished h a) _

theorem handsOver {n : Nat} (hn : 1 ≤ n) : HandsOver n (EndsAfter : Stream ω → Bytes → Prop) where
  piece {t s} h hSome := by
    obtain ⟨arrived, last, delivered, hKeeps, hLast, hEnd, hBytes⟩ := h
    have hAnswered := hKeeps.answered hn
    change ∃ chunk rest, _ ∧ _ ∧ (t.read n none).1 = _ ∧ EndsAfter (t.read n none).2 rest
    unfold read
    dsimp only
    generalize t.settle.inbox.read? n = result at hAnswered ⊢
    cases hAnswered with
    | bytes chunk b hChunk hShort hKeeps' hTold =>
        have hRest := hKeeps'.bytes
        rw [← hBytes, List.append_assoc] at hRest
        have hFinished : b.finished = true := by rw [hKeeps'.finished, hLast]; rfl
        refine ⟨chunk, b.bytes, (List.append_cancel_left hRest).symm, hChunk, rfl, arrived, last,
          delivered ++ chunk, ?_, hLast, hEnd, hKeeps'.bytes⟩
        rw [settle_inbox_of_finished hFinished]
        exact hKeeps'
    | nothing hAll hGoesOn => cases hGoesOn.symm.trans hLast
    | finished last' b hAll =>
        rw [hAll, List.append_right_eq_self] at hBytes
        exact absurd hBytes hSome
  atEnd {t} h := by
    obtain ⟨arrived, last, delivered, hKeeps, hLast, hEnd, hBytes⟩ := h
    have hAnswered := hKeeps.answered hn
    change ∃ e, (t.read n none).1 = _ ∧ _
    unfold read
    dsimp only
    generalize t.settle.inbox.read? n = result at hAnswered ⊢
    cases hAnswered with
    | bytes chunk b hChunk hShort hKeeps' hTold =>
        have hRest := hKeeps'.bytes
        rw [← hBytes, List.append_assoc] at hRest
        exact absurd (List.append_eq_nil_iff.1 (List.append_cancel_left hRest)).1 hChunk
    | nothing hAll hGoesOn => cases hGoesOn.symm.trans hLast
    | finished last' b hAll hLast' =>
        cases hLast.symm.trans hLast'
        refine ⟨_, rfl, ?_⟩
        split
        · rfl
        · exact hEnd
  look h := h
  patient {t s} h := by
    obtain ⟨arrived, last, delivered, hKeeps, -, -, hBytes⟩ := h
    have hSame := List.append_cancel_left (hBytes.trans hKeeps.bytes.symm)
    change s.length < t.settle.inbox.bytes.length + 2
    rw [hSame]
    exact Nat.lt_add_of_pos_right (Nat.succ_pos 1)

end Stream

end DocWire

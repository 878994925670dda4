import DocWire.Transport.Stream
import Mathlib.Data.List.Basic
import Mathlib.Data.List.TakeWhile

/-! What an inbox keeps of the arrivals at a reading end, and how it answers reads. Bytes that
arrive before the stream is over are handed out once and in their order, and only then is the end
heard of. -/

namespace DocWire

theorem Bytes.ne_nil_of_mem_pieces {size : Nat} {s piece : Bytes} (h : piece ∈ s.pieces size) :
    piece ≠ [] := by
  fun_induction Bytes.pieces size s with
  | case1 => cases h
  | case2 b s ih =>
      rcases List.mem_cons.1 h with rfl | hRest
      · exact List.cons_ne_nil _ _
      · exact ih hRest

namespace Arrival

/-- The bytes that an arrival brings. -/
def data : Arrival → Bytes
  | .bytes data => data
  | _ => []

/-- Whether the stream is over with an arrival. A piece without bytes is its end, and a failure is
unless it is an interruption. -/
def isLast : Arrival → Bool
  | .bytes data => data.isEmpty
  | .endOfStream => true
  | .failure e => e.kind ≠ .interrupted

/-- The failure in which a reader hears first that the stream is over. -/
def report : Arrival → IoError
  | .failure e => e
  | _ => .endOfStream

/-- The arrival with which the stream is over, if it is. -/
def last? (arrived : List Arrival) : Option Arrival :=
  arrived.find? isLast

/-- The bytes that arrive before the stream is over. -/
def bytesBeforeEnd (arrived : List Arrival) : Bytes :=
  (arrived.takeWhile fun a => !a.isLast).flatMap data

theorem data_of_isLast {a : Arrival} (h : a.isLast = true) : a.data = [] := by
  cases a with
  | bytes data => exact List.isEmpty_iff.1 h
  | _ => rfl

theorem report_kind_ne_interrupted {a : Arrival} (h : a.isLast = true) :
    a.report.kind ≠ .interrupted := by
  cases a with
  | failure e => exact of_decide_eq_true h
  | bytes | endOfStream => exact IoError.Kind.noConfusion

variable {arrived : List Arrival} {a : Arrival}

/-- Once the stream is over, nothing that arrives counts. -/
theorem over_append (h : last? arrived = some a) (more : List Arrival) :
    last? (arrived ++ more) = some a ∧
      bytesBeforeEnd (arrived ++ more) = bytesBeforeEnd arrived := by
  refine ⟨by rw [last?, List.find?_append, ← last?, h, Option.some_or], ?_⟩
  induction arrived with
  | nil => cases h
  | cons b arrived ih =>
      cases hb : b.isLast with
      | true => simp [bytesBeforeEnd, hb]
      | false =>
          rw [last?, List.find?_cons_of_neg (by simp [hb])] at h
          have hRest := ih h
          simp only [bytesBeforeEnd, List.cons_append, List.takeWhile_cons, hb] at hRest ⊢
          exact congrArg (b.data ++ ·) hRest

theorem bytesBeforeEnd_concat (h : last? arrived = none) (a : Arrival) :
    bytesBeforeEnd (arrived ++ [a]) = bytesBeforeEnd arrived ++ a.data := by
  have hAll : ∀ b ∈ arrived, (!b.isLast) = true := by simpa [last?] using h
  have hFront : arrived.takeWhile (fun b => !b.isLast) = arrived :=
    List.takeWhile_eq_self_iff.2 hAll
  rw [bytesBeforeEnd, bytesBeforeEnd, List.takeWhile_append_of_pos hAll, hFront,
    List.flatMap_append]
  cases ha : a.isLast with
  | true => simp [ha, data_of_isLast ha]
  | false => simp [ha]

theorem last?_concat (h : last? arrived = none) (a : Arrival) :
    last? (arrived ++ [a]) = if a.isLast then some a else none := by
  rw [last?, List.find?_append, ← last?, h, Option.none_or, List.find?_singleton]

end Arrival

open Arrival (last? bytesBeforeEnd)

namespace Inbox

/-- What stands in the queue behind the bytes. The end itself is not queued. -/
def notice : Option Arrival → List IoError
  | some (.failure e) => [e]
  | _ => []

@[simp] theorem notice_none : notice none = [] := rfl

/-- What an inbox keeps of the arrivals when some bytes have been handed out: the others, and a
failure if that has not been handed out either. -/
structure Keeps (b : Inbox) (arrived : List Arrival) (delivered : Bytes) : Prop where
  bytes : delivered ++ b.bytes = bytesBeforeEnd arrived
  finished : b.finished = (last? arrived).isSome
  queue : b.ended = false → ∃ pieces : List Bytes, (∀ piece ∈ pieces, piece ≠ []) ∧
    b.queue = pieces.map .ok ++ (notice (last? arrived)).map .error
  ended : b.ended = true → b.finished = true ∧ b.leftover = [] ∧ b.queue = []

variable {b : Inbox} {arrived : List Arrival} {delivered : Bytes}

theorem keeps_empty : ({} : Inbox).Keeps [] [] :=
  ⟨rfl, rfl, fun _ => ⟨[], by simp, rfl⟩, fun h => by cases h⟩

/-- A queue of pieces, and perhaps a failure behind them, keeps the bytes of the pieces. -/
theorem bytes_of_queue {pieces : List Bytes} {failures : List IoError}
    (h : b.queue = pieces.map .ok ++ failures.map .error) :
    b.bytes = b.leftover ++ pieces.flatten := by
  simp [bytes, h, List.flatMap_map]

/-- Pieces that are not empty are queued as they are. -/
theorem foldl_takePiece (hGoesOn : b.finished = false) {pieces : List Bytes}
    (h : ∀ piece ∈ pieces, piece ≠ []) : pieces.foldl takePiece b =
      { b with queue := b.queue ++ pieces.map .ok, pieces := b.pieces + pieces.length } := by
  induction pieces generalizing b with
  | nil => simp
  | cons piece pieces ih =>
      obtain ⟨hFirst, hRest⟩ := List.forall_mem_cons.1 h
      have hTaken : b.takePiece piece =
          { b with queue := b.queue ++ [.ok piece], pieces := b.pieces + 1 } := by
        simp [takePiece, hGoesOn, hFirst]
      rw [List.foldl_cons, hTaken]
      have hNext := ih (b := { b with queue := b.queue ++ [.ok piece], pieces := b.pieces + 1 })
        hGoesOn hRest
      rw [hNext]
      simp
      omega

theorem takePiece_of_finished (h : b.finished = true) (data : Bytes) : b.takePiece data = b :=
  if_pos h

/-- After its end nothing is taken off the reading end. -/
theorem take_of_finished (h : b.finished = true) (a : Arrival) : b.take a = b := by
  cases a with
  | bytes data =>
      rw [take]
      split
      · exact takePiece_of_finished h []
      · exact List.foldl_fixed' (fun piece => takePiece_of_finished h piece) _
  | endOfStream => rw [take, ← h]
  | failure e => exact if_pos (Or.inl h)

theorem Keeps.goesOn (h : b.Keeps arrived delivered) (hLast : last? arrived = none) :
    b.finished = false ∧ b.ended = false := by
  have hFinished : b.finished = false := by rw [h.finished, hLast]; rfl
  refine ⟨hFinished, ?_⟩
  cases hEnded : b.ended with
  | false => rfl
  | true => exact (h.ended hEnded).1.symm.trans hFinished

/-- While the stream goes on, what arrives is queued: its bytes in pieces, and a failure that ends
the stream. -/
theorem exists_take (hGoesOn : b.finished = false) (a : Arrival) :
    ∃ pieces : List Bytes, (∀ piece ∈ pieces, piece ≠ []) ∧ pieces.flatten = a.data ∧
      (b.take a).queue = b.queue ++ (pieces.map .ok ++
        (notice (if a.isLast then some a else none)).map .error) ∧
      (b.take a).finished = a.isLast ∧ (b.take a).leftover = b.leftover ∧
      (b.take a).ended = b.ended := by
  cases a with
  | bytes data =>
      by_cases hData : data = []
      · subst hData
        exact ⟨[], by simp, rfl, by simp [Inbox.take, takePiece, hGoesOn, Arrival.isLast, notice]⟩
      · have hPieces : ∀ piece ∈ data.pieces pieceSize, piece ≠ [] :=
          fun piece hMem => Bytes.ne_nil_of_mem_pieces hMem
        have hTaken : b.take (.bytes data) = (data.pieces pieceSize).foldl takePiece b := by
          simp [Inbox.take, hData]
        refine ⟨data.pieces pieceSize, hPieces, Bytes.flatten_pieces .., ?_⟩
        rw [hTaken, foldl_takePiece hGoesOn hPieces]
        simp [Arrival.isLast, hData, hGoesOn]
  | endOfStream => exact ⟨[], by simp, rfl, by simp [Inbox.take, Arrival.isLast, notice]⟩
  | failure e =>
      refine ⟨[], by simp, rfl, ?_⟩
      by_cases hKind : e.kind = .interrupted <;>
        simp [Inbox.take, hGoesOn, hKind, Arrival.isLast, notice]

/-- What arrives is kept behind what is kept already, unless the stream is over. -/
theorem Keeps.take (h : b.Keeps arrived delivered) (a : Arrival) :
    (b.take a).Keeps (arrived ++ [a]) delivered := by
  cases hLast : last? arrived with
  | some last =>
      obtain ⟨hOver, hBytes⟩ := Arrival.over_append hLast [a]
      have hFinished : b.finished = true := by rw [h.finished, hLast]; rfl
      rw [take_of_finished hFinished]
      refine ⟨hBytes ▸ h.bytes, by rw [hOver, ← hLast]; exact h.finished, ?_, h.ended⟩
      rw [hOver, ← hLast]
      exact h.queue
  | none =>
      obtain ⟨hGoesOn, hNotEnded⟩ := h.goesOn hLast
      obtain ⟨pieces, hPieces, hQueue⟩ := h.queue hNotEnded
      obtain ⟨pieces', hPieces', hData, hQueue', hFinished', hLeftover', hEnded'⟩ :=
        exists_take hGoesOn a
      have hBytes := h.bytes
      rw [bytes_of_queue hQueue] at hBytes
      rw [← Arrival.last?_concat hLast, hQueue, hLast, notice_none, List.map_nil, List.append_nil,
        ← List.append_assoc, ← List.map_append] at hQueue'
      refine ⟨?_, ?_, fun _ => ⟨pieces ++ pieces', ?_, hQueue'⟩, ?_⟩
      · rw [bytes_of_queue hQueue', hLeftover', Arrival.bytesBeforeEnd_concat hLast, ← hBytes,
          List.flatten_append, hData]
        simp only [List.append_assoc]
      · rw [hFinished', Arrival.last?_concat hLast]
        cases a.isLast <;> rfl
      · exact List.forall_mem_append.2 ⟨hPieces, hPieces'⟩
      · rw [hEnded', hNotEnded]
        exact fun h => nomatch h

theorem Keeps.foldl_take (h : b.Keeps arrived delivered) (more : List Arrival) :
    (more.foldl Inbox.take b).Keeps (arrived ++ more) delivered := by
  induction more generalizing b arrived with
  | nil => simpa using h
  | cons a more ih => simpa using ih (h.take a)

/-- How a read goes when `arrived` is kept but for the bytes `delivered`, and it has been `told` or
not that the stream is over. The next bytes are handed out; with all bytes handed out the read waits
while the stream goes on, and else it fails. -/
inductive Answered (told : Bool) (max : Nat) (arrived : List Arrival) (delivered : Bytes) :
    Option (Except IoError Bytes × Inbox) → Prop where
  | bytes (chunk : Bytes) (b : Inbox) (hSome : chunk ≠ []) (hShort : chunk.length ≤ max)
      (hKeeps : b.Keeps arrived (delivered ++ chunk)) (hTold : told = false ∧ b.ended = false) :
      Answered told max arrived delivered (some (.ok chunk, b))
  | nothing (hAll : delivered = bytesBeforeEnd arrived) (hGoesOn : last? arrived = none) :
      Answered told max arrived delivered none
  | finished (last : Arrival) (b : Inbox) (hAll : delivered = bytesBeforeEnd arrived)
      (hLast : last? arrived = some last) (hKeeps : b.Keeps arrived delivered)
      (hTold : b.ended = true) :
      Answered told max arrived delivered
        (some (.error (if told then .endOfStream else last.report), b))

/-- Bytes of the leftover are handed out from its front. -/
theorem Keeps.handOut (h : b.Keeps arrived delivered) (hLeftover : b.leftover ≠ []) {max : Nat}
    (hMax : 1 ≤ max) : Answered b.ended max arrived delivered (some (b.handOut max)) := by
  have hNotEnded : b.ended = false := by
    by_contra hEnded
    exact hLeftover (h.ended (by simpa using hEnded)).2.1
  refine .bytes (b.leftover.take max) _ ?_ (List.length_take_le ..) ⟨?_, h.finished, h.queue, ?_⟩
    ⟨hNotEnded, hNotEnded⟩
  · intro hNil
    rcases List.take_eq_nil_iff.1 hNil with hZero | hEmpty
    · omega
    · exact hLeftover hEmpty
  · rw [← h.bytes]
    simp only [Inbox.bytes, List.append_assoc]
    rw [← List.append_assoc (b.leftover.take max), List.take_append_drop]
  · intro hEnded
    exact absurd (hNotEnded.symm.trans hEnded) Bool.false_ne_true

/-- A read that finds no leftover goes on with the next piece. -/
theorem Keeps.answered_of_piece (h : b.Keeps arrived delivered) (hNotEnded : b.ended = false)
    (hLeftover : b.leftover = []) {data : Bytes} {pieces : List Bytes}
    (hPieces : ∀ piece ∈ data :: pieces, piece ≠ [])
    (hQueue : b.queue = (data :: pieces).map .ok ++ (notice (last? arrived)).map .error) {max : Nat}
    (hMax : 1 ≤ max) : Answered false max arrived delivered (b.read? max) := by
  obtain ⟨hData, hRest⟩ := List.forall_mem_cons.1 hPieces
  have hBytes := h.bytes
  rw [bytes_of_queue hQueue, hLeftover, List.nil_append] at hBytes
  let queue : List (Except IoError Bytes) :=
    pieces.map .ok ++ (notice (last? arrived)).map .error
  have hRead : b.read? max = some (({ b with queue, leftover := data } : Inbox).handOut max) := by
    simp [read?, hLeftover, hNotEnded, hQueue, queue]
  have hNext : ({ b with queue, leftover := data } : Inbox).Keeps arrived delivered := by
    refine ⟨?_, h.finished, fun _ => ⟨pieces, hRest, rfl⟩, fun hEnded => ?_⟩
    · rw [bytes_of_queue (b := { b with queue, leftover := data }) rfl]
      exact hBytes
    · exact absurd (hNotEnded.symm.trans hEnded) Bool.false_ne_true
  rw [hRead, ← hNotEnded]
  exact hNext.handOut hData hMax

/-- A read that finds no bytes waits, or hears that the stream is over. -/
theorem Keeps.answered_of_nothing (h : b.Keeps arrived delivered) (hNotEnded : b.ended = false)
    (hLeftover : b.leftover = []) (hQueue : b.queue = (notice (last? arrived)).map .error)
    (max : Nat) : Answered false max arrived delivered (b.read? max) := by
  have hNoPiece : b.queue = ([] : List Bytes).map .ok ++ (notice (last? arrived)).map .error :=
    hQueue
  have hBytes : b.bytes = [] := by rw [bytes_of_queue hNoPiece, hLeftover]; rfl
  have hAll : delivered = bytesBeforeEnd arrived := by
    rw [← h.bytes, hBytes, List.append_nil]
  have hFinished := h.finished
  cases hLast : last? arrived with
  | none =>
      rw [hLast] at hQueue hFinished
      have hRead : b.read? max = none := by
        simp [read?, hLeftover, hNotEnded, hQueue, hFinished]
      rw [hRead]
      exact .nothing hAll hLast
  | some last =>
      rw [hLast] at hQueue hFinished
      have hOver : ({ b with queue := [], ended := true } : Inbox).Keeps arrived delivered := by
        refine ⟨?_, h.finished, fun hGoesOn => ?_, fun _ => ⟨hFinished, hLeftover, rfl⟩⟩
        · simp [Inbox.bytes, hLeftover, hAll]
        · cases hGoesOn
      have hRead : b.read? max =
          some (.error last.report, { b with queue := [], ended := true }) := by
        cases last <;>
          simp [read?, hLeftover, hNotEnded, hQueue, hFinished, notice, Arrival.report]
      rw [hRead]
      exact .finished last _ hAll hLast hOver rfl

/-- Who was told that the stream is over hears of nothing but the end. -/
theorem Keeps.answered_of_ended (h : b.Keeps arrived delivered) (hEnded : b.ended = true)
    (max : Nat) : Answered true max arrived delivered (b.read? max) := by
  obtain ⟨hFinished, hLeftover, hQueue⟩ := h.ended hEnded
  obtain ⟨last, hLast⟩ := Option.isSome_iff_exists.1 (h.finished.symm.trans hFinished)
  have hAll : delivered = bytesBeforeEnd arrived := by
    rw [← h.bytes]
    simp [Inbox.bytes, hLeftover, hQueue]
  have hRead : b.read? max = some (.error .endOfStream, b) := by simp [read?, hLeftover, hEnded]
  rw [hRead]
  exact .finished last b hAll hLast h hEnded

theorem Keeps.answered (h : b.Keeps arrived delivered) {max : Nat} (hMax : 1 ≤ max) :
    Answered b.ended max arrived delivered (b.read? max) := by
  by_cases hLeftover : b.leftover = []
  · cases hEnded : b.ended with
    | true => exact h.answered_of_ended hEnded max
    | false =>
        obtain ⟨pieces, hPieces, hQueue⟩ := h.queue hEnded
        cases pieces with
        | nil => exact h.answered_of_nothing hEnded hLeftover hQueue max
        | cons data pieces => exact h.answered_of_piece hEnded hLeftover hPieces hQueue hMax
  · have hRead : b.read? max = some (b.handOut max) := by simp [read?, hLeftover]
    rw [hRead]
    exact h.handOut hLeftover hMax

end Inbox

end DocWire

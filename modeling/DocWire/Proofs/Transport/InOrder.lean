import DocWire.Proofs.Transport.Inbox
import DocWire.Text.Utf8
import DocWire.Transport.Rehearsal

/-! A stream takes pieces off its reading end and is read in portions of other sizes, while more
pieces arrive. A reader gets the bytes that arrived, in their order, none twice and none left out,
and hears that the stream is over only behind the last of them. -/

namespace DocWire

open Arrival (last? bytesBeforeEnd)

namespace Inbox

/-- The bytes that these answers hand out. -/
def bytesOf (answers : List (Except IoError Bytes)) : Bytes :=
  answers.flatMap fun
    | .ok data => data
    | .error _ => []

/-- The failures among these answers. -/
def failures (answers : List (Except IoError Bytes)) : List IoError :=
  answers.filterMap fun
    | .ok _ => none
    | .error e => some e

theorem bytesOf_concat (answers : List (Except IoError Bytes)) (chunk : Bytes) :
    bytesOf (answers ++ [.ok chunk]) = bytesOf answers ++ chunk := by
  simp [bytesOf]

theorem bytesOf_concat_error (answers : List (Except IoError Bytes)) (e : IoError) :
    bytesOf (answers ++ [.error e]) = bytesOf answers := by
  simp [bytesOf]

theorem failures_concat (answers : List (Except IoError Bytes)) (chunk : Bytes) :
    failures (answers ++ [.ok chunk]) = failures answers := by
  simp [failures]

theorem failures_concat_error (answers : List (Except IoError Bytes)) (e : IoError) :
    failures (answers ++ [.error e]) = failures answers ++ [e] := by
  simp [failures]

variable {b : Inbox} {arrived : List Arrival} {delivered : Bytes}

/-- A reader has heard that the stream is over: first how, and from then on that it has ended. -/
def HeardOver (arrived : List Arrival) (failures : List IoError) : Prop :=
  ∃ last later, last? arrived = some last ∧
    failures = last.report :: List.replicate later .endOfStream

/-- An inbox and its reader, after these arrivals and with these answers. -/
structure Serves (b : Inbox) (arrived : List Arrival) (answers : List (Except IoError Bytes)) :
    Prop where
  keeps : b.Keeps arrived (bytesOf answers)
  told : if b.ended then HeardOver arrived (failures answers) else failures answers = []

theorem serves_empty : ({} : Inbox).Serves [] [] :=
  ⟨keeps_empty, rfl⟩

variable {answers : List (Except IoError Bytes)}

theorem ended_take (b : Inbox) (a : Arrival) : (b.take a).ended = b.ended := by
  cases hFinished : b.finished with
  | true => rw [take_of_finished hFinished]
  | false =>
      obtain ⟨-, -, -, -, -, -, hEnded⟩ := exists_take hFinished a
      exact hEnded

theorem Serves.take (h : b.Serves arrived answers) (a : Arrival) :
    (b.take a).Serves (arrived ++ [a]) answers := by
  refine ⟨h.keeps.take a, ?_⟩
  have hTold := h.told
  rw [ended_take]
  split at hTold
  next hEnded =>
    obtain ⟨last, later, hLast, hFailures⟩ := hTold
    rw [if_pos hEnded]
    exact ⟨last, later, (Arrival.over_append hLast [a]).1, hFailures⟩
  next hEnded => rwa [if_neg hEnded]

theorem Serves.foldl_take (h : b.Serves arrived answers) (more : List Arrival) :
    (more.foldl Inbox.take b).Serves (arrived ++ more) answers := by
  induction more generalizing b arrived with
  | nil => simpa using h
  | cons a more ih => simpa using ih (h.take a)

theorem Serves.failures_eq_nil (h : b.Serves arrived answers) (hEnded : b.ended = false) :
    failures answers = [] := by
  have hTold := h.told
  rwa [if_neg (by simp [hEnded])] at hTold

theorem Serves.heardOver (h : b.Serves arrived answers) (hSome : failures answers ≠ []) :
    HeardOver arrived (failures answers) := by
  have hTold := h.told
  split at hTold
  · exact hTold
  · exact absurd hTold hSome

/-- One more answer with bytes, or with none while the stream goes on. -/
theorem Serves.of_ok {chunk : Bytes} (hKeeps : b.Keeps arrived (bytesOf answers ++ chunk))
    (hTold : if b.ended then HeardOver arrived (failures answers) else failures answers = []) :
    b.Serves arrived (answers ++ [.ok chunk]) := by
  refine ⟨?_, ?_⟩
  · rwa [bytesOf_concat]
  · rwa [failures_concat]

/-- The news that comes once the stream is over depends on whether there were any before. -/
theorem Serves.news_eq (h : b.Serves arrived answers) (last : Arrival) :
    (if b.ended then IoError.endOfStream else last.report) =
      if failures answers = [] then last.report else .endOfStream := by
  have hTold := h.told
  split at hTold
  next hEnded =>
    obtain ⟨last', later, -, hFailures⟩ := hTold
    rw [if_pos hEnded, if_neg (by simp [hFailures])]
  next hEnded => rw [if_neg hEnded, if_pos hTold]

/-- What was handed out last was missing before. -/
theorem Serves.missing_before {chunk : Bytes} (h : b.Serves arrived (answers ++ [.ok chunk]))
    (hSome : chunk ≠ []) : bytesOf answers ≠ bytesBeforeEnd arrived := by
  intro hAll
  have hBytes := h.keeps.bytes
  rw [bytesOf_concat, ← hAll, List.append_assoc, List.append_right_eq_self] at hBytes
  exact hSome (List.append_eq_nil_iff.1 hBytes).1

/-- One more answer with the news that the stream is over. -/
theorem Serves.of_error {b' : Inbox} {last : Arrival} (h : b.Serves arrived answers)
    (hLast : last? arrived = some last) (hKeeps : b'.Keeps arrived (bytesOf answers))
    (hEnded : b'.ended = true) :
    b'.Serves arrived (answers ++
      [.error (if failures answers = [] then last.report else .endOfStream)]) := by
  refine ⟨?_, ?_⟩
  · rwa [bytesOf_concat_error]
  · rw [if_pos hEnded, failures_concat_error]
    by_cases hNone : failures answers = []
    · exact ⟨last, 0, hLast, by simp [hNone]⟩
    · have hTold := h.told
      split at hTold
      · obtain ⟨last', later, hLast', hFailures⟩ := hTold
        cases hLast.symm.trans hLast'
        refine ⟨last, later + 1, hLast, ?_⟩
        rw [if_neg hNone, hFailures, List.replicate_succ']
        rfl
      · exact absurd hTold hNone

end Inbox

open Inbox (bytesOf failures HeardOver)

namespace Stream

variable {ω : Type} [Ends ω]

/-- A read without a deadline that finds nothing goes on. -/
def Waits (t : Stream ω) (max : Nat) (deadline : Option Instant) : Prop :=
  deadline = none ∧ t.settle.inbox.read? max = none

/-- From `s` to `t` the reading end has yielded `arrived`, and the reads that came back have given
`answers`. Between two reads time passes and the ends change in any way; so whatever arrives while a
read goes on has arrived before it comes back. -/
inductive Reads (s : Stream ω) :
    List Arrival → List (Except IoError Bytes) → Stream ω → Prop where
  | start : Reads s [] [] s
  | between {arrived : List Arrival} {answers : List (Except IoError Bytes)} {t : Stream ω}
      (h : Reads s arrived answers t) (change : ω → ω) (clock : Instant) :
      Reads s arrived answers { t with ends := change t.ends, clock }
  | read {arrived : List Arrival} {answers : List (Except IoError Bytes)} {t : Stream ω}
      (h : Reads s arrived answers t) {max : Nat} (hMax : 1 ≤ max) (deadline : Option Instant)
      (hBack : ¬ t.Waits max deadline) :
      Reads s (arrived ++ (Ends.arrivals t.ends).1) (answers ++ [(t.read max deadline).1])
        (t.read max deadline).2

variable {s t : Stream ω} {arrived : List Arrival} {answers : List (Except IoError Bytes)}

/-- How a read comes out at a reader that has heard these answers, and whether it found something:
the next bytes, nothing while the stream goes on, or that it is over. -/
inductive ReadOut (max : Nat) (deadline : Option Instant) (arrived : List Arrival)
    (answers : List (Except IoError Bytes)) : Bool → Except IoError Bytes → Stream ω → Prop where
  | bytes (chunk : Bytes) (t : Stream ω) (hSome : chunk ≠ []) (hShort : chunk.length ≤ max)
      (hUntold : failures answers = [])
      (hServes : t.inbox.Serves arrived (answers ++ [.ok chunk])) :
      ReadOut max deadline arrived answers true (.ok chunk) t
  | nothing (t : Stream ω) (hAll : bytesOf answers = bytesBeforeEnd arrived)
      (hGoesOn : last? arrived = none) (hLate : ∀ d, deadline = some d → d.nanos ≤ t.clock.nanos)
      (hServes : t.inbox.Serves arrived (answers ++ [.ok []])) :
      ReadOut max deadline arrived answers false (.ok []) t
  | finished (last : Arrival) (t : Stream ω) (hAll : bytesOf answers = bytesBeforeEnd arrived)
      (hLast : last? arrived = some last)
      (hServes : t.inbox.Serves arrived (answers ++
        [.error (if failures answers = [] then last.report else .endOfStream)])) :
      ReadOut max deadline arrived answers true
        (.error (if failures answers = [] then last.report else .endOfStream)) t

theorem readOut (h : t.settle.inbox.Serves arrived answers) {max : Nat} (hMax : 1 ≤ max)
    (deadline : Option Instant) :
    ReadOut max deadline arrived answers (t.settle.inbox.read? max).isSome
      (t.read max deadline).1 (t.read max deadline).2 := by
  have hAnswered := h.keeps.answered hMax
  unfold read
  dsimp only
  generalize t.settle.inbox.read? max = result at hAnswered ⊢
  cases hAnswered with
  | bytes chunk b hSome hShort hKeeps hTold =>
      have hUntold := h.failures_eq_nil hTold.1
      refine .bytes chunk _ hSome hShort hUntold (.of_ok ?_ ?_)
      · exact hKeeps
      · simp [hTold.2, hUntold]
  | nothing hAll hGoesOn =>
      refine .nothing _ hAll hGoesOn ?_ (.of_ok ?_ ?_)
      · rintro d rfl
        exact Nat.le_max_right ..
      · rw [List.append_nil]
        exact h.keeps
      · exact h.told
  | finished last b hAll hLast hKeeps hEnded =>
      rw [h.news_eq last]
      exact .finished last _ hAll hLast (h.of_error hLast hKeeps hEnded)

namespace ReadOut

variable {max : Nat} {deadline : Option Instant} {found : Bool} {answer : Except IoError Bytes}

omit [Ends ω]

theorem serves (h : ReadOut max deadline arrived answers found answer t) :
    t.inbox.Serves arrived (answers ++ [answer]) := by
  cases h with
  | bytes _ _ _ _ _ hServes | nothing _ _ _ _ hServes | finished _ _ _ _ hServes => exact hServes

theorem length_le (h : ReadOut max deadline arrived answers found answer t) {chunk : Bytes}
    (hChunk : answer = .ok chunk) : chunk.length ≤ max := by
  cases h with
  | bytes chunk _ _ hShort =>
      cases hChunk
      exact hShort
  | nothing =>
      cases hChunk
      exact Nat.zero_le _
  | finished => cases hChunk

theorem bytes_of_missing (h : ReadOut max deadline arrived answers found answer t)
    (hMissing : bytesOf answers ≠ bytesBeforeEnd arrived) :
    ∃ chunk, answer = .ok chunk ∧ chunk ≠ [] := by
  cases h with
  | bytes chunk _ hSome => exact ⟨chunk, rfl, hSome⟩
  | nothing _ hAll | finished _ _ hAll => exact absurd hAll hMissing

/-- A read finds nothing exactly when all bytes are handed out and the stream goes on. -/
theorem found_eq_false_iff (h : ReadOut max deadline arrived answers found answer t) :
    found = false ↔ bytesOf answers = bytesBeforeEnd arrived ∧ last? arrived = none := by
  cases h with
  | bytes _ _ hSome _ _ hServes =>
      exact ⟨(nomatch ·), fun h => absurd h.1 (hServes.missing_before hSome)⟩
  | nothing _ hAll hGoesOn => exact ⟨fun _ => ⟨hAll, hGoesOn⟩, fun _ => rfl⟩
  | finished _ _ _ hLast => exact ⟨(nomatch ·), fun h => nomatch h.2.symm.trans hLast⟩

/-- A read that brings nothing has found nothing and lasted until the deadline. -/
theorem of_nil (h : ReadOut max deadline arrived answers found answer t)
    (hNil : answer = .ok []) :
    found = false ∧ ∀ d, deadline = some d → d.nanos ≤ t.clock.nanos := by
  cases h with
  | bytes chunk _ hSome =>
      cases hNil
      exact absurd rfl hSome
  | nothing _ _ _ hLate => exact ⟨rfl, hLate⟩
  | finished => cases hNil

theorem of_error (h : ReadOut max deadline arrived answers found answer t) {e : IoError}
    (hError : answer = .error e) : bytesOf answers = bytesBeforeEnd arrived ∧
      (last? arrived).isSome ∧ e.kind ≠ .interrupted := by
  cases h with
  | bytes | nothing => cases hError
  | finished last _ hAll hLast =>
      cases hError
      refine ⟨hAll, Option.isSome_iff_exists.2 ⟨last, hLast⟩, ?_⟩
      split
      · exact Arrival.report_kind_ne_interrupted (List.find?_some hLast)
      · exact IoError.Kind.noConfusion

/-- Once all bytes are handed out, one more read tells the reader that the stream is over. -/
theorem failures_eq (h : ReadOut max deadline arrived answers found answer t) {last : Arrival}
    (hLast : last? arrived = some last) (hAll : bytesOf answers = bytesBeforeEnd arrived) :
    ∃ later, failures (answers ++ [answer]) = last.report :: List.replicate later .endOfStream := by
  cases h with
  | bytes _ _ hSome _ _ hServes => exact absurd hAll (hServes.missing_before hSome)
  | nothing _ _ hGoesOn => cases hGoesOn.symm.trans hLast
  | finished _ _ _ _ hServes =>
      obtain ⟨last', later, hLast', hFailures⟩ :=
        hServes.heardOver (by simp [Inbox.failures_concat_error])
      cases hLast.symm.trans hLast'
      exact ⟨later, hFailures⟩

theorem of_heardOver (h : ReadOut max deadline arrived answers found answer t)
    (hHeard : failures answers ≠ []) : answer = .error .endOfStream := by
  cases h with
  | bytes _ _ _ _ hUntold => exact absurd hUntold hHeard
  | nothing _ _ hGoesOn _ hServes =>
      rw [← Inbox.failures_concat answers []] at hHeard
      obtain ⟨last, -, hLast, -⟩ := hServes.heardOver hHeard
      cases hGoesOn.symm.trans hLast
  | finished => rw [if_neg hHeard]

end ReadOut

/-- What the reading end yields now is taken before the read. -/
theorem serves_settle (h : t.inbox.Serves arrived answers) :
    t.settle.inbox.Serves (arrived ++ (Ends.arrivals t.ends).1) answers :=
  h.foldl_take _

theorem Reads.serves (h : s.Reads arrived answers t) (hFresh : s.inbox = {}) :
    t.inbox.Serves arrived answers := by
  induction h with
  | start =>
      rw [hFresh]
      exact Inbox.serves_empty
  | between _ _ _ ih => exact ih
  | read _ hMax deadline _ ih => exact (readOut (serves_settle ih) hMax deadline).serves

/-- A read that finds something comes back. -/
theorem Reads.of_read (h : s.Reads arrived answers t) {max : Nat} (hMax : 1 ≤ max)
    {deadline : Option Instant} (hFound : (t.settle.inbox.read? max).isSome = true)
    {answer : Except IoError Bytes} {t' : Stream ω} (hRead : t.read max deadline = (answer, t')) :
    s.Reads (arrived ++ (Ends.arrivals t.ends).1) (answers ++ [answer]) t' := by
  have hBack : ¬ t.Waits max deadline := fun hWaits => by
    rw [hWaits.2] at hFound
    cases hFound
  have hNext := h.read hMax deadline hBack
  rwa [hRead] at hNext

/-- A reader that asks a fresh stream for any numbers of bytes, with any deadlines, while anything
arrives at the reading end in between. After each read the bytes handed out are the first of those
that have arrived before the stream was over, and the read has brought no more than it was asked
for. It brings some while there are any, and comes back with none only when its deadline has passed,
all bytes are handed out and the stream goes on; without a deadline it then goes on as well. It
fails only when all bytes are handed out and the stream is over, and never because of an
interruption. Of the failures that the reader is told the first is that of the stream, and all
others, which come for ever after that one, are its end. -/
theorem reads_bytes_in_order (hFresh : s.inbox = {}) (h : s.Reads arrived answers t) {max : Nat}
    (hMax : 1 ≤ max) (deadline : Option Instant) :
    let arrived' := arrived ++ (Ends.arrivals t.ends).1
    let o := t.read max deadline
    let answers' := answers ++ [o.1]
    bytesOf answers' <+: bytesBeforeEnd arrived' ∧
    (∀ chunk, o.1 = .ok chunk → chunk.length ≤ max) ∧
    (bytesOf answers ≠ bytesBeforeEnd arrived' → ∃ chunk, o.1 = .ok chunk ∧ chunk ≠ []) ∧
    (¬ t.Waits max deadline → o.1 = .ok [] → bytesOf answers = bytesBeforeEnd arrived' ∧
      last? arrived' = none ∧ ∃ d, deadline = some d ∧ d.nanos ≤ o.2.clock.nanos) ∧
    (t.Waits max deadline ↔ deadline = none ∧ bytesOf answers = bytesBeforeEnd arrived' ∧
      last? arrived' = none) ∧
    (∀ e, o.1 = .error e → bytesOf answers = bytesBeforeEnd arrived' ∧
      (last? arrived').isSome ∧ e.kind ≠ .interrupted) ∧
    (∀ last, last? arrived' = some last → bytesOf answers = bytesBeforeEnd arrived' →
      ∃ later, failures answers' = last.report :: List.replicate later .endOfStream) ∧
    (failures answers ≠ [] → o.1 = .error .endOfStream) := by
  intro arrived' o answers'
  have hOut : ReadOut max deadline arrived' answers (t.settle.inbox.read? max).isSome o.1 o.2 :=
    readOut (serves_settle (h.serves hFresh)) hMax deadline
  have hServes : o.2.inbox.Serves arrived' answers' := hOut.serves
  have hFound : t.settle.inbox.read? max = none ↔ _ :=
    Option.isSome_eq_false_iff.trans Option.isNone_iff_eq_none |>.symm.trans hOut.found_eq_false_iff
  refine ⟨⟨_, hServes.keeps.bytes⟩, fun _ => hOut.length_le, hOut.bytes_of_missing, ?_,
    and_congr_right' hFound, fun _ => hOut.of_error, fun _ => hOut.failures_eq, hOut.of_heardOver⟩
  intro hBack hNil
  obtain ⟨hNothing, hLate⟩ := hOut.of_nil hNil
  obtain ⟨hAll, hGoesOn⟩ := hOut.found_eq_false_iff.1 hNothing
  refine ⟨hAll, hGoesOn, ?_⟩
  cases hDeadline : deadline with
  | none => exact absurd ⟨hDeadline, hFound.2 ⟨hAll, hGoesOn⟩⟩ hBack
  | some d => exact ⟨d, rfl, hLate d hDeadline⟩

/-- A stream whose reading end yields a piece at first. -/
def begun : Stream Rehearsal :=
  { ends := { feed := [.bytes (Utf8.encode "abc")] }, unblocks := false }

/-- The reading end is interrupted, yields another piece and breaks off. -/
def breakOff (ends : Rehearsal) : Rehearsal :=
  { ends with feed := [.failure (.ofKind .interrupted), .bytes (Utf8.encode "de"),
      .failure (.ofKind .connectionReset)] }

/-- Three reads hand out both pieces, of which the first is asked for in two parts. The next read
hears of the failure and the one after it of the end. -/
theorem reads_bytes_in_order_breakOff :
    let lost : IoError := .ofKind .connectionReset
    let arrived := begun.ends.feed ++ (breakOff {}).feed
    let answers : List (Except IoError Bytes) :=
      [.ok (Utf8.encode "ab"), .ok (Utf8.encode "c"), .ok (Utf8.encode "de")]
    let t : Stream Rehearsal := { ends := {}, unblocks := false, inbox := {
      queue := [.error lost]
      finished := true
      pieces := 2 } }
    let o := t.read 2 none
    begun.inbox = {} ∧ begun.Reads arrived answers t ∧ ¬ t.Waits 2 none ∧
      (∃ later, failures (answers ++ [o.1]) = lost :: List.replicate later .endOfStream) ∧
      o.1 = .error lost ∧ (o.2.read 2 none).1 = .error .endOfStream := by
  intro lost arrived answers t o
  let t₁ : Stream Rehearsal :=
    { ends := {}, inbox := { leftover := Utf8.encode "c", pieces := 1 }, unblocks := false }
  let t₂ : Stream Rehearsal := { ends := {}, unblocks := false, inbox := {
    queue := [.ok (Utf8.encode "de"), .error lost]
    finished := true
    pieces := 2 } }
  let ended : Stream Rehearsal :=
    { ends := {}, inbox := { finished := true, ended := true, pieces := 2 }, unblocks := false }
  have hRead₁ : begun.read 2 none = (.ok (Utf8.encode "ab"), t₁) := by cbv
  have hRead₂ : ({ t₁ with ends := breakOff t₁.ends } : Stream Rehearsal).read 2 (some ⟨0⟩) =
      (.ok (Utf8.encode "c"), t₂) := by cbv
  have hRead₃ : t₂.read 2 none = (.ok (Utf8.encode "de"), t) := by cbv
  have hRead₄ : t.read 2 none = (.error lost, ended) := by cbv
  have hReads₁ : begun.Reads begun.ends.feed _ t₁ :=
    Reads.start.of_read (by decide) (by cbv) hRead₁
  have hReads₂ : begun.Reads arrived _ t₂ :=
    (hReads₁.between breakOff t₁.clock).of_read (by decide) (by cbv) hRead₂
  have hReads₃ : begun.Reads arrived answers t := hReads₂.of_read (by decide) (by cbv) hRead₃
  have hReads₄ : begun.Reads arrived (answers ++ [.error lost]) ended :=
    hReads₃.of_read (by decide) (by cbv) hRead₄
  obtain ⟨-, -, -, -, hWaits, -, hLost, -⟩ :=
    reads_bytes_in_order rfl hReads₃ (by decide : 1 ≤ 2) none
  obtain ⟨-, -, -, -, -, -, -, hEnd⟩ :=
    reads_bytes_in_order rfl hReads₄ (by decide : 1 ≤ 2) none
  have hLast : last? (arrived ++ (Ends.arrivals t.ends).1) = some (.failure lost) := by cbv
  have hBack : ¬ t.Waits 2 none := fun h =>
    Option.some_ne_none _ (hLast.symm.trans (hWaits.1 h).2.2)
  refine ⟨rfl, hReads₃, hBack, hLost _ hLast (by cbv), ?_, ?_⟩
  · exact congrArg Prod.fst hRead₄
  · rw [show o.2 = ended from congrArg Prod.snd hRead₄]
    exact hEnd (by simp [failures, lost])

end Stream

end DocWire

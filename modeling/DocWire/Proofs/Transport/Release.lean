import DocWire.Text.Utf8
import DocWire.Transport.Rehearsal
import Mathlib.Data.List.Forall2

/-! A stream gives its writing end up once: it flushes it, releases it and then unblocks the reading
end, whatever the answers are. What is done at the ends is read off a log, which changes nothing. -/

namespace DocWire

/-- A call to the writing end, or one that unblocks the reading end. -/
inductive Access where
  | wrote (offered : Bytes) (answer : Except IoError Nat)
  | flushed (answer : Except IoError Unit)
  | released
  | unblocked (answer : Except IoError Unit)

namespace Access

/-- The bytes that the writing end accepts in a call. -/
def accepted : Access → Bytes
  | wrote offered (.ok n) => offered.take n
  | _ => []

/-- Something was offered to the writing end. -/
def IsWrite (a : Access) : Prop :=
  ∃ offered answer, a = wrote offered answer

end Access

/-- Ends with a log of what is done at them. -/
structure Logged (ω : Type) where
  ends : ω
  log : List Access

variable {ω : Type} [Ends ω]

/-- Looking at what arrives is not logged. -/
instance : Ends (Logged ω) where
  write data e :=
    let answer := (Ends.write data e.ends).1
    (answer, ⟨(Ends.write data e.ends).2, e.log ++ [.wrote data answer]⟩)
  flush e :=
    let answer := (Ends.flush e.ends).1
    (answer, ⟨(Ends.flush e.ends).2, e.log ++ [.flushed answer]⟩)
  release e := ⟨Ends.release e.ends, e.log ++ [.released]⟩
  unblock e :=
    let answer := (Ends.unblock e.ends).1
    (answer, ⟨(Ends.unblock e.ends).2, e.log ++ [.unblocked answer]⟩)
  arrivals e := ((Ends.arrivals e.ends).1, ⟨(Ends.arrivals e.ends).2, e.log⟩)
  patience e := Ends.patience e.ends

namespace Stream

inductive Call where
  | write (data : Bytes)
  | read (max : Nat) (deadline : Option Instant)
  | close

/-- Makes a call. Only a read gives bytes back. -/
def perform (s : Stream ω) : Call → Except IoError Bytes × Stream ω
  | .write data => ((s.write data).1.map fun _ => [], (s.write data).2)
  | .read max deadline => s.read max deadline
  | .close => (s.close.1.map fun _ => [], s.close.2)

/-- The stream over the same ends with an empty log. -/
def logged (s : Stream ω) : Stream (Logged ω) :=
  ⟨⟨s.ends, []⟩, s.inbox, s.writable, s.unblocks, s.clock⟩

/-- The stream over the ends without their log. -/
def unlogged (s : Stream (Logged ω)) : Stream ω :=
  ⟨s.ends.ends, s.inbox, s.writable, s.unblocks, s.clock⟩

/-- What a call does at the ends. -/
def accesses (s : Stream ω) (what : Call) : List Access :=
  (s.logged.perform what).2.ends.log

/-- One step in the life of a stream: a call, or what happens at the ends while time passes. -/
inductive Step (ω : Type) where
  | call (what : Call)
  | meanwhile (change : ω → ω) (clock : Instant)

/-- A call with its answer and with what it did at the ends. -/
structure Turn where
  call : Call
  answer : Except IoError Bytes
  accesses : List Access

/-- The calls among the steps, each made to the stream that the steps before it leave. -/
def turns (s : Stream ω) : List (Step ω) → List Turn
  | [] => []
  | .call what :: steps =>
    ⟨what, (s.perform what).1, s.accesses what⟩ :: turns (s.perform what).2 steps
  | .meanwhile change clock :: steps => turns { s with ends := change s.ends, clock } steps

def afterwards (s : Stream ω) : List (Step ω) → Stream ω
  | [] => s
  | .call what :: steps => afterwards (s.perform what).2 steps
  | .meanwhile change clock :: steps => afterwards { s with ends := change s.ends, clock } steps

theorem turns_append (s : Stream ω) (first rest : List (Step ω)) :
    s.turns (first ++ rest) = s.turns first ++ (s.afterwards first).turns rest := by
  induction first generalizing s with
  | nil => rfl
  | cons step steps ih =>
      cases step with
      | call what => exact congrArg (_ :: ·) (ih _)
      | meanwhile change clock => exact ih _

theorem writeAll_unlogged (rounds : Nat) (data : Bytes) (e : Logged ω) :
    (writeAll rounds data e).map id Logged.ends = writeAll rounds data e.ends := by
  induction rounds generalizing data e with
  | zero => cases data <;> rfl
  | succ rounds ih =>
      cases data with
      | nil => rfl
      | cons b data =>
          simp only [writeAll, Ends.write]
          split
          · rfl
          · exact ih _ _
          · split
            · exact ih _ _
            · rfl

theorem write_unlogged (data : Bytes) (s : Stream (Logged ω)) :
    (s.write data).map id unlogged = s.unlogged.write data := by
  obtain ⟨e, inbox, writable, unblocks, clock⟩ := s
  cases writable with
  | false => rfl
  | true =>
      have hAll := writeAll_unlogged (Ends.patience e + data.length) data e
      simp only [write, unlogged]
      rw [show Ends.patience e.ends = Ends.patience e from rfl, ← hAll]
      cases writeAll (Ends.patience e + data.length) data e with
      | mk answer e' => cases answer <;> rfl

theorem read_unlogged (max : Nat) (deadline : Option Instant) (s : Stream (Logged ω)) :
    (s.read max deadline).map id unlogged = s.unlogged.read max deadline := by
  unfold read
  dsimp only
  rw [show s.unlogged.settle.inbox = s.settle.inbox from rfl]
  cases s.settle.inbox.read? max <;> rfl

theorem close_unlogged (s : Stream (Logged ω)) :
    s.close.map id unlogged = s.unlogged.close := by
  obtain ⟨e, inbox, writable, unblocks, clock⟩ := s
  cases writable <;> cases unblocks <;> rfl

/-- Over ends with a log a call gives the same answer and leaves the same stream. -/
theorem perform_unlogged (s : Stream (Logged ω)) (what : Call) :
    (s.perform what).map id unlogged = s.unlogged.perform what := by
  cases what with
  | write data =>
      rw [perform, perform, ← write_unlogged]
      rfl
  | read max deadline => exact read_unlogged max deadline s
  | close =>
      rw [perform, perform, ← close_unlogged]
      rfl

/-- How a call goes before the stream is closed, and what part of its data the writing end accepts.
A write whose data is accepted flushes the writing end, and its answer is that of the flush. -/
inductive Contributes : Turn → Bytes → Prop where
  | whole (data : Bytes) (writes : List Access) (flush : Except IoError Unit)
      (hWrites : ∀ a ∈ writes, a.IsWrite) (hAll : writes.flatMap Access.accepted = data) :
      Contributes ⟨.write data, flush.map fun _ => [], writes ++ [.flushed flush]⟩ data
  | part (data part : Bytes) (writes : List Access) (e : IoError)
      (hWrites : ∀ a ∈ writes, a.IsWrite) (hPart : writes.flatMap Access.accepted = part)
      (hFront : part <+: data) :
      Contributes ⟨.write data, .error e, writes⟩ part
  | nothing (max : Nat) (deadline : Option Instant) (answer : Except IoError Bytes) :
      Contributes ⟨.read max deadline, answer, []⟩ []

/-- How the call goes that closes a stream. -/
inductive Closes (unblocks : Bool) : Turn → Prop where
  | close (flush : Except IoError Unit) (unblocking : List (Except IoError Unit))
      (hOnce : unblocking.length = if unblocks then 1 else 0) :
      Closes unblocks ⟨.close, flush.map fun _ => [],
        .flushed flush :: .released :: unblocking.map .unblocked⟩

/-- How a call goes on a stream that is closed. -/
inductive Idles : Turn → Prop where
  | write (data : Bytes) (e : IoError) (hKind : e.kind = .brokenPipe) :
      Idles ⟨.write data, .error e, []⟩
  | read (max : Nat) (deadline : Option Instant) (answer : Except IoError Bytes) :
      Idles ⟨.read max deadline, answer, []⟩
  | close : Idles ⟨.close, .ok [], []⟩

/-- All that is done at the ends from `e` on are writes, which hand over data from its front, and if
nothing fails all of it. -/
def HandsOver (data : Bytes) (e : Logged ω) (o : Except IoError Unit × Logged ω) : Prop :=
  ∃ writes, o.2.log = e.log ++ writes ∧ (∀ a ∈ writes, a.IsWrite) ∧
    writes.flatMap Access.accepted <+: data ∧
    (o.1 = .ok () → writes.flatMap Access.accepted = data)

/-- What a write is offered is what it accepts and what is handed over after it. -/
theorem HandsOver.after {data rest : Bytes} {e : Logged ω} {o : Except IoError Unit × Logged ω}
    (h : HandsOver rest (Ends.write data e).2 o)
    (hRest : data = (Access.wrote data (Ends.write data e).1).accepted ++ rest) :
    HandsOver data e o := by
  obtain ⟨writes, hLog, hWrites, hFront, hAll⟩ := h
  refine ⟨.wrote data (Ends.write data e).1 :: writes, ?_, ?_, ?_, fun hOk => ?_⟩
  · rw [hLog, List.append_cons]
    rfl
  · exact List.forall_mem_cons.2 ⟨⟨_, _, rfl⟩, hWrites⟩
  · have hAccepted := (List.prefix_append_right_inj
      (Access.wrote data (Ends.write data e).1).accepted).2 hFront
    rwa [← hRest] at hAccepted
  · rw [List.flatMap_cons, hAll hOk]
    exact hRest.symm

omit [Ends ω] in
theorem HandsOver.failed (data : Bytes) (e : Logged ω) (failure : IoError) :
    HandsOver data e (.error failure, e) :=
  ⟨[], by simp, by simp, List.nil_prefix, fun h => nomatch h⟩

theorem handsOver_writeAll (rounds : Nat) (data : Bytes) (e : Logged ω) :
    HandsOver data e (writeAll rounds data e) := by
  induction rounds generalizing data e with
  | zero =>
      cases data with
      | nil => exact ⟨[], by simp [writeAll]⟩
      | cons b data => exact .failed ..
  | succ rounds ih =>
      cases data with
      | nil => exact ⟨[], by simp [writeAll]⟩
      | cons b data =>
          rw [writeAll]
          dsimp only
          split
          next hNone => exact (HandsOver.failed ..).after (by rw [hNone]; rfl)
          next n hSome => exact (ih ..).after (by rw [hSome]; exact (List.take_append_drop ..).symm)
          next failure hFailure =>
            split
            · exact (ih ..).after (by rw [hFailure]; rfl)
            · exact (HandsOver.failed ..).after (by rw [hFailure]; rfl)

theorem perform_logged_answer (s : Stream ω) (what : Call) :
    (s.logged.perform what).1 = (s.perform what).1 :=
  congrArg Prod.fst (perform_unlogged s.logged what)

theorem write_of_failed {s : Stream ω} (h : s.writable = true) {data : Bytes} {e : IoError}
    {ends : ω}
    (hWritten : writeAll (Ends.patience s.ends + data.length) data s.ends = (.error e, ends)) :
    s.write data = (.error e, { s with ends }) := by
  simp only [write, h, hWritten]
  rfl

theorem write_of_written {s : Stream ω} (h : s.writable = true) {data : Bytes} {ends : ω}
    (hWritten : writeAll (Ends.patience s.ends + data.length) data s.ends = (.ok (), ends)) :
    s.write data = ((Ends.flush ends).1, { s with ends := (Ends.flush ends).2 }) := by
  simp only [write, h, hWritten]
  rfl

/-- While the writing end is there, a write hands over its data or a first part of it. -/
theorem contributes_write {s : Stream ω} (h : s.writable = true) (data : Bytes) :
    ∃ part,
      Contributes ⟨.write data, (s.perform (.write data)).1, s.accesses (.write data)⟩ part := by
  have hLogged : s.logged.writable = true := h
  rw [← perform_logged_answer, accesses, perform]
  cases hAnswer : writeAll (Ends.patience s.logged.ends + data.length) data s.logged.ends with
  | mk answer ends =>
      have hHanded : HandsOver data s.logged.ends (answer, ends) := hAnswer ▸ handsOver_writeAll ..
      obtain ⟨writes, hLog, hWrites, hFront, hAll⟩ := hHanded
      cases answer with
      | error e =>
          rw [write_of_failed hLogged hAnswer]
          dsimp only
          rw [hLog]
          exact ⟨_, .part data _ writes e hWrites rfl hFront⟩
      | ok =>
          rw [write_of_written hLogged hAnswer]
          have hFlushed : (Ends.flush ends).2.log = writes ++ [.flushed (Ends.flush ends).1] :=
            congrArg (· ++ _) hLog
          dsimp only
          rw [hFlushed]
          exact ⟨data, .whole data writes _ hWrites (hAll rfl)⟩

theorem accesses_read (s : Stream ω) (max : Nat) (deadline : Option Instant) :
    s.accesses (.read max deadline) = [] := by
  unfold accesses perform read
  dsimp only
  cases s.logged.settle.inbox.read? max <;> rfl

theorem closes_close {s : Stream ω} (h : s.writable = true) :
    Closes s.unblocks ⟨.close, (s.perform .close).1, s.accesses .close⟩ := by
  obtain ⟨ends, inbox, writable, unblocks, clock⟩ := s
  obtain rfl : writable = true := h
  cases unblocks with
  | false => exact .close (Ends.flush ends).1 [] rfl
  | true =>
      exact .close (Ends.flush ends).1 [(Ends.unblock (Ends.release (Ends.flush ends).2)).1] rfl

/-- Only closing gives anything up. -/
theorem perform_settings {s : Stream ω} {what : Call} (h : what ≠ .close) :
    (s.perform what).2.writable = s.writable ∧ (s.perform what).2.unblocks = s.unblocks := by
  cases what with
  | write data =>
      unfold perform write
      dsimp only
      split
      · exact ⟨rfl, rfl⟩
      · split <;> exact ⟨rfl, rfl⟩
  | read max deadline =>
      unfold perform read
      dsimp only
      split <;> exact ⟨rfl, rfl⟩
  | close => exact absurd rfl h

/-- Nothing is left to be given up. -/
structure GivenUp (s : Stream ω) : Prop where
  writable : s.writable = false
  unblocks : s.unblocks = false

theorem givenUp_close (s : Stream ω) : (s.perform .close).2.GivenUp := by
  obtain ⟨ends, inbox, writable, unblocks, clock⟩ := s
  cases writable <;> cases unblocks <;> exact ⟨rfl, rfl⟩

theorem GivenUp.perform {s : Stream ω} (h : s.GivenUp) (what : Call) :
    (s.perform what).2.GivenUp := by
  by_cases hClose : what = .close
  · rw [hClose]
    exact s.givenUp_close
  · obtain ⟨hWritable, hUnblocks⟩ := perform_settings (s := s) hClose
    exact ⟨hWritable.trans h.writable, hUnblocks.trans h.unblocks⟩

theorem GivenUp.idles {s : Stream ω} (h : s.GivenUp) (what : Call) :
    Idles ⟨what, (s.perform what).1, s.accesses what⟩ := by
  obtain ⟨ends, inbox, writable, unblocks, clock⟩ := s
  obtain ⟨rfl, rfl⟩ := h
  cases what with
  | write data => exact .write data .alreadyClosed rfl
  | read max deadline =>
      rw [accesses_read]
      exact .read max deadline _
  | close => exact .close

theorem exists_contributes {s : Stream ω} (h : s.writable = true) {what : Call}
    (hClose : what ≠ .close) :
    ∃ part, Contributes ⟨what, (s.perform what).1, s.accesses what⟩ part := by
  cases what with
  | write data => exact contributes_write h data
  | read max deadline =>
      rw [accesses_read]
      exact ⟨[], .nothing max deadline _⟩
  | close => exact absurd rfl hClose

theorem GivenUp.turns {s : Stream ω} (h : s.GivenUp) (steps : List (Step ω)) :
    ∀ turn ∈ s.turns steps, Idles turn := by
  induction steps generalizing s with
  | nil => simp [Stream.turns]
  | cons step steps ih =>
      cases step with
      | call what => exact List.forall_mem_cons.2 ⟨h.idles what, ih (h.perform what)⟩
      | meanwhile change clock => exact ih ⟨h.writable, h.unblocks⟩

theorem exists_parts {s : Stream ω} (h : s.writable = true) {steps : List (Step ω)}
    (hClose : .call .close ∉ steps) :
    (∃ parts, List.Forall₂ Contributes (s.turns steps) parts) ∧
      (s.afterwards steps).writable = true ∧ (s.afterwards steps).unblocks = s.unblocks := by
  induction steps generalizing s with
  | nil => exact ⟨⟨[], .nil⟩, h, rfl⟩
  | cons step steps ih =>
      rw [List.mem_cons, not_or] at hClose
      cases step with
      | call what =>
          have hWhat : what ≠ .close := fun hSame => hClose.1 (hSame ▸ rfl)
          obtain ⟨hWritable, hUnblocks⟩ := perform_settings (s := s) hWhat
          obtain ⟨part, hPart⟩ := exists_contributes h hWhat
          obtain ⟨⟨parts, hParts⟩, hRest, hSame⟩ := ih (hWritable.trans h) hClose.2
          exact ⟨⟨part :: parts, .cons hPart hParts⟩, hRest, hSame.trans hUnblocks⟩
      | meanwhile change clock => exact ih h hClose.2

theorem Contributes.accepted {turn : Turn} {part : Bytes} (h : Contributes turn part) :
    turn.accesses.flatMap Access.accepted = part := by
  cases h with
  | whole data writes flush hWrites hAll =>
      rw [List.flatMap_append, hAll]
      exact List.append_nil _
  | part data part writes e hWrites hPart hFront => exact hPart
  | nothing => rfl

theorem accepted_of_parts {turns : List Turn} {parts : List Bytes}
    (h : List.Forall₂ Contributes turns parts) :
    turns.flatMap (·.accesses.flatMap Access.accepted) = parts.flatten := by
  induction h with
  | nil => rfl
  | cons hPart hParts ih => rw [List.flatMap_cons, hPart.accepted, ih, List.flatten_cons]

/-- Whatever the ends do. Until a stream is closed first, what its writing end accepts is, write by
write and in their order, all of the data if the write comes to its flush, and else a first part of
it. Closing flushes the writing end and gives it up, once each, and then, if that has to be done,
unblocks the reading end once; the answer is that of the flush. All that comes later leaves the ends
alone: writes fail as writes to a broken pipe, and closing succeeds. -/
theorem gives_writing_end_up_once {s : Stream ω} (hThere : s.writable = true)
    {before : List (Step ω)} (hBefore : .call .close ∉ before) (after : List (Step ω)) :
    (∃ parts, List.Forall₂ Contributes (s.turns before) parts ∧
      (s.turns before).flatMap (·.accesses.flatMap Access.accepted) = parts.flatten) ∧
    ∃ closing later, s.turns (before ++ .call .close :: after) =
        s.turns before ++ closing :: later ∧
      Closes s.unblocks closing ∧ ∀ turn ∈ later, Idles turn := by
  obtain ⟨⟨parts, hParts⟩, hWritable, hUnblocks⟩ := exists_parts hThere hBefore
  refine ⟨⟨parts, hParts, accepted_of_parts hParts⟩, _, _, turns_append .., ?_, ?_⟩
  · rw [← hUnblocks]
    exact closes_close hWritable
  · exact (givenUp_close _).turns after

/-- Ends of which the writing end accepts parts and fails, in a flush and in a write. -/
def faltering : Rehearsal :=
  { writes := [.upTo 2, .failure (.ofKind .interrupted), .whole, .whole, .upTo 1,
      .failure (.ofKind .connectionReset)]
    flushes := [none, some (.ofKind .timedOut), some (.ofKind .brokenPipe)]
    unblocking := some (.ofKind .other) }

/-- The first write is accepted in two parts, the second fails in its flush and the third after one
byte. The flush on closing fails, and so does unblocking the reading end. -/
theorem gives_writing_end_up_once_faltering :
    let s : Stream Rehearsal := { ends := faltering, unblocks := true }
    let before : List (Step Rehearsal) :=
      [.call (.write (Utf8.encode "abc")), .call (.read 8 (some ⟨0⟩)),
        .call (.write (Utf8.encode "de")), .call (.write (Utf8.encode "fgh"))]
    let after : List (Step Rehearsal) := [.call (.write (Utf8.encode "i")), .call .close]
    let lost : IoError := .ofKind .brokenPipe
    s.writable = true ∧ .call .close ∉ before ∧
      (∃ parts, List.Forall₂ Contributes (s.turns before) parts ∧
        parts.flatten = Utf8.encode "abcdef") ∧
      ∃ closing later, s.turns (before ++ .call .close :: after) =
          s.turns before ++ closing :: later ∧ (∀ turn ∈ later, Idles turn) ∧
        closing = ⟨.close, .error lost, [.flushed (.error lost), .released,
          .unblocked (.error (.ofKind .other))]⟩ := by
  intro s before after lost
  have hBefore : .call .close ∉ before := by simp [before]
  obtain ⟨⟨parts, hParts, hAccepted⟩, closing, later, hTurns, -, hLater⟩ :=
    gives_writing_end_up_once (s := s) rfl hBefore after
  refine ⟨rfl, hBefore, ⟨parts, hParts, hAccepted.symm.trans (by decide +kernel)⟩, closing, later,
    hTurns, hLater, ?_⟩
  have hClosing : (s.turns (before ++ .call .close :: after))[4]? = some closing := by
    rw [hTurns]
    rfl
  exact Option.some.inj (hClosing.symm.trans rfl)

end Stream

end DocWire

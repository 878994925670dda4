import DocWire.Proofs.Decimal.Reading
import DocWire.Proofs.Frame.Decoding
import Mathlib.Data.List.Forall2

/-! The bytes that have arrived are at any time the frames of the bodies handed out, what was passed
over since, and the buffer, in whatever order bytes are pushed and bodies are asked for. -/

namespace DocWire.Frame

/-- The number that digits spell, with the most significant one first. -/
def spelled (digits : Bytes) : Nat :=
  digits.foldl (fun n b => n * 10 + (b.toNat - 0x30)) 0

/-- `digits` is a count that announces a body of `n` bytes: digits only, at least one, and not too
large. Leading zeros are allowed. -/
structure IsCount (digits : Bytes) (n : Nat) : Prop where
  nonempty : digits ≠ []
  ascii : ∀ b ∈ digits, 0x30 ≤ b.toNat ∧ b.toNat ≤ 0x39
  value : spelled digits = n
  small : n ≤ maxSize

theorem isCount_of_length? {header : Bytes} {n : Nat} (h : length? header = some n)
    (hMax : n ≤ maxSize) : IsCount header n := by
  obtain ⟨hNe, hRead⟩ := length?_eq_some_iff.1 h
  obtain ⟨hDigits, hValue, -⟩ := Decimal.readDigits_bytes_eq_ok_iff.1 hRead
  exact ⟨hNe, hDigits, hValue, hMax⟩

namespace Decoder

variable {d d' : Decoder} {body arrived : Bytes} {bodies : List Bytes}

/-- The bytes that a decoder passes over without handing out a body, from what it expects before to
what it expects after. -/
inductive Passes : Option Nat → Option Nat → Bytes → Prop
  /-- Between messages, spaces. -/
  | spaces (gap : Nat) : Passes none none (List.replicate gap Bytes.space)
  /-- A valid count with spaces in front and the space that ends it. -/
  | count (gap : Nat) {digits : Bytes} {n : Nat} (h : IsCount digits n) :
      Passes none (some n) (List.replicate gap Bytes.space ++ (digits ++ [Bytes.space]))
  /-- Nothing while a body is incomplete. -/
  | nothing (n : Nat) : Passes (some n) (some n) []

theorem Passes.trans {a b c : Option Nat} {s t : Bytes} (h : Passes a b s) (h' : Passes b c t) :
    Passes a c (s ++ t) := by
  cases h with
  | spaces gap =>
      cases h' with
      | spaces gap' =>
          rw [List.replicate_append_replicate]
          exact .spaces (gap + gap')
      | count gap' hCount =>
          rw [← List.append_assoc, List.replicate_append_replicate]
          exact .count (gap + gap') hCount
  | count gap hCount =>
      cases h'
      rw [List.append_nil]
      exact .count gap hCount
  | nothing n => exact h'

/-- `s` is a frame of `body`: spaces, a count of its bytes, a space, and the body. -/
def IsFrame (body s : Bytes) : Prop :=
  ∃ front, Passes none (some body.length) front ∧ s = front ++ body

/-- What becomes of the buffer when a decoder is asked and answers. -/
def Consumes (d d' : Decoder) : Except Fault (Option Bytes) → Prop
  | .ok (some body) => d'.expected = none ∧ ∃ front,
      Passes d.expected (some body.length) front ∧ d.buffer = front ++ (body ++ d'.buffer)
  | .ok none => ∃ front, Passes d.expected d'.expected front ∧ d.buffer = front ++ d'.buffer
  | .error _ => d.expected = none ∧ d'.expected = none ∧
      ∃ gap, d.buffer = List.replicate gap Bytes.space ++ d'.buffer

/-- Behind a front that ends with the count of a body, the body is taken or waited for. -/
theorem consumes_takeBody {n : Nat} {front rest : Bytes} (h : Passes d.expected (some n) front)
    (hBuffer : d.buffer = front ++ rest) :
    d.Consumes (takeBody n rest).2 (takeBody n rest).1 := by
  unfold takeBody
  split
  next hShort => exact ⟨front, h, hBuffer⟩
  next hLong =>
    refine ⟨rfl, front, ?_, ?_⟩
    · rw [List.length_take, Nat.min_eq_left (Nat.not_lt.1 hLong)]
      exact h
    · rw [List.take_append_drop]
      exact hBuffer

theorem consumes_next (d : Decoder) : d.Consumes d.next.2 d.next.1 := by
  obtain ⟨buffer, expected⟩ := d
  cases expected with
  | some n => exact consumes_takeBody (.nothing n) rfl
  | none =>
      obtain ⟨gap, hGap⟩ := Bytes.exists_eq_replicate_append_dropSpaces buffer
      simp only [next, takeFrame]
      split
      next f hHeader => exact ⟨rfl, rfl, gap, hGap⟩
      next hHeader => exact ⟨_, .spaces gap, hGap⟩
      next n rest hHeader =>
        obtain ⟨digits, hSplit, hLength, hMax⟩ := header?_eq_some_iff.1 hHeader
        apply consumes_takeBody (.count gap (isCount_of_length? hLength hMax))
        calc
          buffer
          _ = List.replicate gap Bytes.space ++ (digits ++ Bytes.space :: rest) := by
              rw [← Bytes.eq_of_splitAtSpace? hSplit]
              exact hGap
          _ = List.replicate gap Bytes.space ++ (digits ++ [Bytes.space]) ++ rest := by simp

/-- What is done to a decoder: bytes arrive, or it is asked for a body. -/
inductive Use where
  | push (data : Bytes)
  | ask
deriving DecidableEq, Repr

namespace Use

def perform (d : Decoder) : Use → Decoder
  | .push data => d.push data
  | .ask => d.next.2

/-- The body that a use hands out, if it does. -/
def handedOut (d : Decoder) : Use → List Bytes
  | .push _ => []
  | .ask =>
    match d.next.1 with
    | .ok (some body) => [body]
    | _ => []

def pushed : Use → Bytes
  | .push data => data
  | .ask => []

end Use

/-- The decoder after uses that follow one another. A fault ends nothing. -/
def after (d : Decoder) (uses : List Use) : Decoder :=
  uses.foldl Use.perform d

/-- The bodies handed out on the way. -/
def handedOut (d : Decoder) : List Use → List Bytes
  | [] => []
  | u :: uses => u.handedOut d ++ (u.perform d).handedOut uses

/-- The bytes that have arrived are the frames of the bodies handed out, in their order, what was
passed over since, and the buffer. -/
def Conserves (arrived : Bytes) (bodies : List Bytes) (d : Decoder) : Prop :=
  ∃ frames front, List.Forall₂ IsFrame bodies frames ∧ Passes none d.expected front ∧
    arrived = frames.flatten ++ (front ++ d.buffer)

theorem conserves_empty : Conserves [] [] empty :=
  ⟨[], [], .nil, .spaces 0, rfl⟩

theorem Conserves.push (h : Conserves arrived bodies d) (data : Bytes) :
    Conserves (arrived ++ data) bodies (d.push data) := by
  obtain ⟨frames, front, hFrames, hFront, rfl⟩ := h
  refine ⟨frames, front, hFrames, hFront, ?_⟩
  simp only [push_buffer, List.append_assoc]

theorem Conserves.ask (h : Conserves arrived bodies d) :
    Conserves arrived (bodies ++ Use.ask.handedOut d) d.next.2 := by
  obtain ⟨frames, front, hFrames, hFront, rfl⟩ := h
  have hConsumes := consumes_next d
  simp only [Use.handedOut]
  rcases hNext : d.next with ⟨answer, d'⟩
  rw [hNext] at hConsumes
  match answer with
  | .ok (some body) =>
      -- what was passed over before and now, with the body, is one more frame
      obtain ⟨hExpected, more, hMore, hBuffer⟩ := hConsumes
      have hFrame : IsFrame body (front ++ more ++ body) := ⟨_, hFront.trans hMore, rfl⟩
      refine ⟨frames ++ [front ++ more ++ body], [],
        List.rel_append hFrames (.cons hFrame .nil), ?_, ?_⟩
      · rw [hExpected]
        exact .spaces 0
      · simp [hBuffer]
  | .ok none =>
      obtain ⟨more, hMore, hBuffer⟩ := hConsumes
      rw [List.append_nil]
      refine ⟨frames, front ++ more, hFrames, hFront.trans hMore, ?_⟩
      rw [hBuffer, List.append_assoc]
  | .error f =>
      obtain ⟨hBefore, hAfter, gap, hBuffer⟩ := hConsumes
      rw [List.append_nil]
      rw [hBefore] at hFront
      refine ⟨frames, front ++ List.replicate gap Bytes.space, hFrames, ?_, ?_⟩
      · rw [hAfter]
        exact hFront.trans (.spaces gap)
      · rw [hBuffer, List.append_assoc]

theorem Conserves.use (h : Conserves arrived bodies d) (u : Use) :
    Conserves (arrived ++ u.pushed) (bodies ++ u.handedOut d) (u.perform d) := by
  cases u with
  | push data =>
      simp only [Use.pushed, Use.handedOut, Use.perform, List.append_nil]
      exact h.push data
  | ask =>
      simp only [Use.pushed, Use.perform, List.append_nil]
      exact h.ask

theorem Conserves.uses (h : Conserves arrived bodies d) (uses : List Use) :
    Conserves (arrived ++ uses.flatMap Use.pushed) (bodies ++ d.handedOut uses) (d.after uses) := by
  induction uses generalizing arrived bodies d with
  | nil => simpa [after, handedOut] using h
  | cons u uses ih =>
      have hRest := ih (h.use u)
      simpa [after, handedOut, List.append_assoc] using hRest

/-- Whatever is pushed into a decoder, and whenever it is asked, no byte is lost, doubled or moved:
all that has arrived stands in the frames of the bodies handed out, in what was passed over since,
and in the buffer. What the next question consumes depends on its answer in the stated way. -/
theorem conserves_and_consumes (uses : List Use) :
    Conserves (uses.flatMap Use.pushed) (empty.handedOut uses) (empty.after uses) ∧
      (empty.after uses).Consumes (empty.after uses).next.2 (empty.after uses).next.1 :=
  ⟨conserves_empty.uses uses, consumes_next _⟩

/-- A count with a leading zero, then a fault that is met again when more bytes have come. -/
example :
    let uses := [.push (Utf8.encode " 02 a"), .ask, .push (Utf8.encode "b  x "), .ask, .ask,
      .push (Utf8.encode "5"), .ask]
    empty.handedOut uses = [Utf8.encode "ab"] ∧
      empty.after uses = ⟨Utf8.encode "x 5", none⟩ := by
  decide +kernel

end Decoder

end DocWire.Frame

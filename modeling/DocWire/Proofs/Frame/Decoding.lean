import DocWire.Frame

/-! What an early question leaves behind: a body that is handed out is the one that comes first in
any longer stream, and where none is handed out, the decoder stands where it would stand unasked. -/

namespace DocWire

namespace Bytes

theorem dropSpaces_append (s x : Bytes) :
    dropSpaces (s ++ x) = dropSpaces (s.dropSpaces ++ x) := by
  induction s with
  | nil => rfl
  | cons b s ih =>
      by_cases hb : b = space
      · simpa [dropSpaces, hb] using ih
      · simp [dropSpaces, hb]

/-- Behind a byte that is no space, later bytes change nothing. -/
theorem dropSpaces_append_of_ne_nil {s : Bytes} (h : s.dropSpaces ≠ []) (x : Bytes) :
    dropSpaces (s ++ x) = s.dropSpaces ++ x := by
  induction s with
  | nil => exact absurd rfl h
  | cons b s ih =>
      by_cases hb : b = space
      · have hs : dropSpaces s ≠ [] := by simpa [dropSpaces, hb] using h
        simpa [dropSpaces, hb] using ih hs
      · simp [dropSpaces, hb]

theorem dropSpaces_dropSpaces (s : Bytes) : s.dropSpaces.dropSpaces = s.dropSpaces := by
  simpa using (dropSpaces_append s []).symm

/-- What is dropped are spaces. -/
theorem exists_eq_replicate_append_dropSpaces (s : Bytes) :
    ∃ n, s = List.replicate n space ++ s.dropSpaces := by
  induction s with
  | nil => exact ⟨0, rfl⟩
  | cons b s ih =>
      by_cases hb : b = space
      · obtain ⟨n, hn⟩ := ih
        refine ⟨n + 1, ?_⟩
        simpa [dropSpaces, hb, List.replicate_succ] using hn
      · exact ⟨0, by simp [dropSpaces, hb]⟩

theorem dropSpaces_replicate_append (n : Nat) (s : Bytes) :
    dropSpaces (List.replicate n space ++ s) = s.dropSpaces := by
  induction n with
  | zero => rfl
  | succ n ih => simp [dropSpaces, List.replicate_succ]

/-- Bytes without a space have none in front. -/
theorem dropSpaces_of_notMem {s : Bytes} (h : space ∉ s) : s.dropSpaces = s := by
  cases s with
  | nil => rfl
  | cons b s =>
      have hb : b ≠ space := fun e => h (e ▸ List.mem_cons_self ..)
      simp [dropSpaces, hb]

/-- The first space stays the first when more bytes follow. -/
theorem splitAtSpace?_append_right {s before after : Bytes}
    (h : s.splitAtSpace? = some (before, after)) (x : Bytes) :
    splitAtSpace? (s ++ x) = some (before, after ++ x) := by
  obtain ⟨rfl, hBefore⟩ := splitAtSpace?_eq_some_iff.1 h
  rw [List.append_assoc, List.cons_append]
  exact splitAtSpace?_append hBefore

end Bytes

namespace Frame

theorem length?_eq_some_iff {header : Bytes} {n : Nat} :
    length? header = some n ↔ header ≠ [] ∧
      Decimal.readDigits Decimal.maxWord 0 (header.map UInt8.toNat) = .ok n := by
  cases header with
  | nil => simp [length?]
  | cons b s =>
      rw [length?, List.isEmpty_cons, if_neg Bool.false_ne_true]
      generalize Decimal.readDigits Decimal.maxWord 0 ((b :: s).map UInt8.toNat) = answer
      cases answer <;> simp [Except.toOption]

/-- Once the count is complete, later bytes belong to what comes after it. -/
theorem header?_append {s rest : Bytes} {n : Nat} (h : header? s = .ok (some (n, rest)))
    (x : Bytes) : header? (s ++ x) = .ok (some (n, rest ++ x)) := by
  unfold header? at h
  split at h
  · split at h <;> cases h
  next header rest' hs =>
    split at h
    · cases h
    next m hm =>
      split at h
      · cases h
      next hMax =>
        cases h
        simp [header?, Bytes.splitAtSpace?_append_right hs, hm, hMax]

/-- A complete count that is refused stays refused. Only a count without an end may still turn out
to be valid. -/
theorem header?_append_of_error {s : Bytes} {f : Fault} (h : header? s = .error f)
    (hf : f ≠ .unterminated) (x : Bytes) : header? (s ++ x) = .error f := by
  unfold header? at h
  split at h
  · split at h
    · cases h
      exact absurd rfl hf
    · cases h
  next header rest hs =>
    split at h
    next hn =>
      cases h
      simp [header?, Bytes.splitAtSpace?_append_right hs, hn]
    next m hm =>
      split at h
      next hMax =>
        cases h
        simp [header?, Bytes.splitAtSpace?_append_right hs, hm, hMax]
      · cases h

/-- A count that is handed over stands in front of its space, is valid, and leaves the rest. -/
theorem header?_eq_some_iff {s rest : Bytes} {n : Nat} :
    header? s = .ok (some (n, rest)) ↔
      ∃ header, s.splitAtSpace? = some (header, rest) ∧ length? header = some n ∧ n ≤ maxSize := by
  constructor
  · intro h
    unfold header? at h
    split at h
    · split at h <;> cases h
    next header rest' hs =>
      split at h
      · cases h
      next m hm =>
        split at h
        · cases h
        next hMax =>
          cases h
          exact ⟨header, hs, hm, Nat.not_lt.1 hMax⟩
  · rintro ⟨header, hs, hn, hMax⟩
    simp [header?, hs, hn, Nat.not_lt.2 hMax]

/-- Nothing is missing but the end of the count. -/
theorem header?_eq_error_unterminated_iff {s : Bytes} :
    header? s = .error .unterminated ↔ Bytes.space ∉ s ∧ maxHeader < s.length := by
  unfold header?
  split
  next hs =>
    have hSpace := Bytes.splitAtSpace?_eq_none_iff.1 hs
    by_cases hMax : maxHeader < s.length <;> simp [hMax, hSpace]
  next header rest hs =>
    have hSpace : Bytes.space ∈ s := by
      rw [Bytes.eq_of_splitAtSpace? hs]
      simp
    constructor
    · intro h
      split at h
      · cases h
      · split at h <;> cases h
    · exact fun h => absurd hSpace h.1

theorem header?_nil : header? [] = .ok none := rfl

theorem header?_eq_none_iff {s : Bytes} :
    header? s = .ok none ↔ Bytes.space ∉ s ∧ s.length ≤ maxHeader := by
  unfold header?
  split
  next hs =>
    have hSpace := Bytes.splitAtSpace?_eq_none_iff.1 hs
    by_cases hMax : maxHeader < s.length
    · simp [hMax]
    · simp [hMax, hSpace, Nat.not_lt.1 hMax]
  next header rest hs =>
    have hSpace : Bytes.space ∈ s := by
      rw [Bytes.eq_of_splitAtSpace? hs]
      simp
    constructor
    · intro h
      split at h
      · cases h
      · split at h <;> cases h
    · exact fun h => absurd hSpace h.1

namespace Decoder

variable {d d' : Decoder} {body : Bytes} {f : Fault}

@[simp] theorem push_buffer (d : Decoder) (x : Bytes) : (d.push x).buffer = d.buffer ++ x := rfl

@[simp] theorem push_nil (d : Decoder) : d.push [] = d := by simp [push]

theorem push_append (d : Decoder) (x y : Bytes) : d.push (x ++ y) = (d.push x).push y := by
  simp [push]

/-- Bytes after a complete body wait for the next question. -/
theorem takeBody_append {n : Nat} {s : Bytes} (h : takeBody n s = (.ok (some body), d))
    (x : Bytes) : takeBody n (s ++ x) = (.ok (some body), d.push x) := by
  unfold takeBody at h
  split at h
  · cases h
  next hLength =>
    have hLe : n ≤ s.length := Nat.not_lt.1 hLength
    cases h
    have hMore : n ≤ s.length + x.length := by omega
    simp [takeBody, hMore, push, List.take_append_of_le_length hLe,
      List.drop_append_of_le_length hLe]

/-- A body that is handed out is the first one of every longer stream. -/
theorem next_push_of_body (h : d.next = (.ok (some body), d')) (x : Bytes) :
    (d.push x).next = (.ok (some body), d'.push x) := by
  obtain ⟨buffer, expected⟩ := d
  cases expected with
  | some n => exact takeBody_append h x
  | none =>
      simp only [next, takeFrame] at h
      split at h
      · cases h
      · cases h
      next n rest hs =>
        have hNe : buffer.dropSpaces ≠ [] := by
          intro hNil
          rw [hNil, header?_nil] at hs
          cases hs
        simp only [next, push, takeFrame, Bytes.dropSpaces_append_of_ne_nil hNe x,
          header?_append hs x]
        exact takeBody_append h x

/-- Where no body is handed out, the question changes nothing: with more bytes, the next question
is answered as if it were the first. -/
theorem next_push_of_no_body (h : ∀ body, d.next.1 ≠ .ok (some body)) (x : Bytes) :
    (d.next.2.push x).next = (d.push x).next := by
  obtain ⟨buffer, expected⟩ := d
  cases expected with
  | some n =>
      by_cases hLength : buffer.length < n
      · simp [next, takeBody, hLength, push]
      · simp [next, takeBody, hLength] at h
  | none =>
      simp only [next] at h ⊢
      cases hs : header? buffer.dropSpaces with
      | error f =>
          simp only [takeFrame, hs, push]
          rw [← Bytes.dropSpaces_append]
      | ok found =>
          cases found with
          | none =>
              simp only [takeFrame, hs, push]
              rw [← Bytes.dropSpaces_append]
          | some found =>
              obtain ⟨n, rest⟩ := found
              have hNe : buffer.dropSpaces ≠ [] := by
                intro hNil
                rw [hNil, header?_nil] at hs
                cases hs
              by_cases hLength : rest.length < n
              · simp [takeFrame, hs, takeBody, hLength, push,
                  Bytes.dropSpaces_append_of_ne_nil hNe x, header?_append hs x]
              · simp [takeFrame, hs, takeBody, hLength] at h

/-- A decoder that has just been asked in vain answers the same when it is asked again. -/
theorem next_next_of_no_body (h : ∀ body, d.next.1 ≠ .ok (some body)) :
    d.next.2.next = d.next := by
  simpa using next_push_of_no_body h []

/-- A decoder that waits goes on waiting until more bytes come. -/
theorem next_next_of_waiting (h : d.next.1 = .ok none) : d.next.2.next = (.ok none, d.next.2) := by
  have hNone : ∀ body, d.next.1 ≠ .ok (some body) := by simp [h]
  rw [next_next_of_no_body hNone, ← h]

/-- A fault keeps everything but the spaces in front of it, and is met between messages. -/
theorem next_eq_error_iff :
    d.next = (.error f, d') ↔
      d.expected = none ∧ header? d.buffer.dropSpaces = .error f ∧
        d' = ⟨d.buffer.dropSpaces, none⟩ := by
  obtain ⟨buffer, expected⟩ := d
  cases expected with
  | some n =>
      simp only [next, takeBody]
      split <;> simp
  | none =>
      simp only [next, takeFrame]
      cases hs : header? buffer.dropSpaces with
      | error g => simp [eq_comm]
      | ok found =>
          cases found with
          | none => simp
          | some found =>
              simp only [takeBody]
              split <;> simp

/-- A complete fault is met again when more bytes have come. -/
theorem next_push_of_fault (h : d.next = (.error f, d')) (hf : f ≠ .unterminated) (x : Bytes) :
    ∃ d'', (d.push x).next = (.error f, d'') := by
  obtain ⟨hExpected, hs, -⟩ := next_eq_error_iff.1 h
  have hNe : d.buffer.dropSpaces ≠ [] := by
    intro hNil
    rw [hNil, header?_nil] at hs
    cases hs
  refine ⟨_, next_eq_error_iff.2 ⟨hExpected, ?_, rfl⟩⟩
  rw [push_buffer, Bytes.dropSpaces_append_of_ne_nil hNe]
  exact header?_append_of_error hs hf x

/-- The bytes that a body was taken from are consumed, and it would have been handed out with them
alone. -/
theorem exists_consumed_of_body (h : d.next = (.ok (some body), d')) :
    ∃ consumed, d.buffer = consumed ++ d'.buffer ∧ d'.expected = none ∧
      (⟨consumed, d.expected⟩ : Decoder).next = (.ok (some body), empty) := by
  have taken {n : Nat} {s : Bytes} (h : takeBody n s = (.ok (some body), d')) :
      s = s.take n ++ d'.buffer ∧ d'.expected = none ∧
        takeBody n (s.take n) = (.ok (some body), empty) := by
    unfold takeBody at h
    split at h
    · cases h
    next hLength =>
      cases h
      simp [takeBody, Nat.min_eq_left (Nat.not_lt.1 hLength), List.take_take, empty]
  obtain ⟨buffer, expected⟩ := d
  cases expected with
  | some n => exact ⟨buffer.take n, taken h⟩
  | none =>
      simp only [next, takeFrame] at h
      split at h
      · cases h
      · cases h
      next n rest hs =>
        obtain ⟨hRest, hExpected, hAlone⟩ := taken h
        obtain ⟨header, hSplit, hn, hMax⟩ := header?_eq_some_iff.1 hs
        obtain ⟨hBuffer, hHeader⟩ := Bytes.splitAtSpace?_eq_some_iff.1 hSplit
        obtain ⟨gap, hGap⟩ := Bytes.exists_eq_replicate_append_dropSpaces buffer
        -- the spaces in front, the count, its space and the body
        refine ⟨List.replicate gap Bytes.space ++ (header ++ Bytes.space :: rest.take n), ?_,
          hExpected, ?_⟩
        · have hWhole :
              buffer = List.replicate gap Bytes.space ++ (header ++ Bytes.space :: rest) := by
            rw [← hBuffer]
            exact hGap
          rw [hRest] at hWhole
          simpa using hWhole
        · have hNe : header ≠ [] := by
            rintro rfl
            simp [length?] at hn
          have hFront : (header ++ Bytes.space :: rest.take n).dropSpaces =
              header ++ Bytes.space :: rest.take n := by
            rw [Bytes.dropSpaces_append_of_ne_nil] <;> rw [Bytes.dropSpaces_of_notMem hHeader]
            exact hNe
          have hCount : header? (header ++ Bytes.space :: rest.take n) =
              .ok (some (n, rest.take n)) :=
            header?_eq_some_iff.2 ⟨header, Bytes.splitAtSpace?_append hHeader, hn, hMax⟩
          simp only [next, Bytes.dropSpaces_replicate_append, hFront, takeFrame, hCount]
          exact hAlone

/-- The same answers after further bodies. -/
def Drained.prepend (bodies : List Bytes) (r : Drained) : Drained :=
  { r with bodies := bodies ++ r.bodies }

@[simp] theorem Drained.prepend_nil (r : Drained) : r.prepend [] = r := rfl

@[simp] theorem Drained.prepend_prepend (first second : List Bytes) (r : Drained) :
    (r.prepend second).prepend first = r.prepend (first ++ second) := by
  simp [Drained.prepend]

@[simp] theorem Drained.prepend_fault (bodies : List Bytes) (r : Drained) :
    (r.prepend bodies).fault = r.fault := rfl

@[simp] theorem Drained.prepend_decoder (bodies : List Bytes) (r : Drained) :
    (r.prepend bodies).decoder = r.decoder := rfl

@[simp] theorem Drained.prepend_bodies (bodies : List Bytes) (r : Drained) :
    (r.prepend bodies).bodies = bodies ++ r.bodies := rfl

theorem drain_of_body (h : d.next = (.ok (some body), d')) :
    d.drain = d'.drain.prepend [body] := by
  rw [drain.eq_def d]
  split
  next h' =>
    cases h.symm.trans h'
    rfl
  next h' => cases h.symm.trans h'
  next h' => cases h.symm.trans h'

theorem drain_of_waiting (h : d.next = (.ok none, d')) : d.drain = ⟨[], none, d'⟩ := by
  unfold drain
  split
  next h' => cases h.symm.trans h'
  next h' =>
    cases h.symm.trans h'
    rfl
  next h' => cases h.symm.trans h'

theorem drain_of_fault (h : d.next = (.error f, d')) : d.drain = ⟨[], some f, d'⟩ := by
  unfold drain
  split
  next h' => cases h.symm.trans h'
  next h' => cases h.symm.trans h'
  next h' =>
    cases h.symm.trans h'
    rfl

/-- Draining looks at nothing but the answers to questions. -/
theorem drain_congr {d e : Decoder} (h : d.next = e.next) : d.drain = e.drain := by
  rcases hd : d.next with ⟨answer, d'⟩
  have he : e.next = (answer, d') := h ▸ hd
  match answer with
  | .ok (some body) => rw [drain_of_body hd, drain_of_body he]
  | .ok none => rw [drain_of_waiting hd, drain_of_waiting he]
  | .error f => rw [drain_of_fault hd, drain_of_fault he]

/-- What an inductive proof about draining has to show: one step for each answer. -/
theorem drain_induction {motive : Decoder → Prop}
    (body : ∀ d d' body, d.next = (.ok (some body), d') → motive d' → motive d)
    (waiting : ∀ d d', d.next = (.ok none, d') → motive d)
    (fault : ∀ d d' f, d.next = (.error f, d') → motive d) (d : Decoder) : motive d := by
  induction h : d.weight using Nat.strongRecOn generalizing d with
  | ind w ih =>
      rcases hd : d.next with ⟨answer, d'⟩
      match answer with
      | .ok (some b) =>
          have hLess := weight_of_next hd
          exact body d d' b hd (ih d'.weight (by omega) d' rfl)
      | .ok none => exact waiting d d' hd
      | .error f => exact fault d d' f hd

/-- Draining before all bytes have come hands out the bodies that come first, and leaves a decoder
that goes on as if it had not been asked. This holds after a fault, too. -/
theorem drain_push (d : Decoder) (x : Bytes) :
    (d.push x).drain = (d.drain.decoder.push x).drain.prepend d.drain.bodies := by
  induction d using drain_induction with
  | body d d' body h ih =>
      rw [drain_of_body (next_push_of_body h x), drain_of_body h, ih]
      simp
  | waiting d d' h =>
      have hSame := next_push_of_no_body (d := d) (by simp [h]) x
      rw [drain_of_waiting h, Drained.prepend_nil]
      exact drain_congr (by simpa [h] using hSame.symm)
  | fault d d' f h =>
      have hSame := next_push_of_no_body (d := d) (by simp [h]) x
      rw [drain_of_fault h, Drained.prepend_nil]
      exact drain_congr (by simpa [h] using hSame.symm)

/-- A drained decoder has nothing to hand out, and answers with the fault that ended the draining,
if there was one. -/
theorem next_of_drain (d : Decoder) :
    d.drain.decoder.next =
      (match d.drain.fault with | none => .ok none | some f => .error f, d.drain.decoder) := by
  induction d using drain_induction with
  | body d d' body h ih => simpa [drain_of_body h] using ih
  | waiting d d' h =>
      have hAgain := next_next_of_no_body (d := d) (by simp [h])
      rw [h] at hAgain
      simpa [drain_of_waiting h] using hAgain
  | fault d d' f h =>
      have hAgain := next_next_of_no_body (d := d) (by simp [h])
      rw [h] at hAgain
      simpa [drain_of_fault h] using hAgain

end Decoder

end Frame

end DocWire

import DocWire.Proofs.Decimal.Reading
import DocWire.Proofs.Frame.Decoding

/-! A stream that arrives in pieces is decoded like one that arrives at once, with one exception: a
count with more digits than any number needs is accepted only if its space has arrived with it. -/

namespace DocWire.Frame

/-- A valid count has no space in it. -/
theorem space_notMem_of_length? {header : Bytes} {n : Nat} (h : length? header = some n) :
    Bytes.space ∉ header := by
  intro hMem
  obtain ⟨hDigits, -⟩ := Decimal.readDigits_bytes_eq_ok_iff.1 (length?_eq_some_iff.1 h).2
  exact absurd (hDigits _ hMem).1 (by decide)

namespace Decoder

variable {d : Decoder}

/-- Two outcomes of decoding that a reader cannot tell apart: the same bodies, a fault in both or in
neither, and without one decoders that hold equally many bytes and expect the same. -/
structure Drained.Agrees (r s : Drained) : Prop where
  bodies : r.bodies = s.bodies
  fault : r.fault.isSome = s.fault.isSome
  buffered : r.fault = none → s.fault = none → r.decoder.buffered = s.decoder.buffered
  expected : r.fault = none → s.fault = none → r.decoder.expected = s.decoder.expected

/-- The cut between `front` and `back` falls into a valid count, after more digits of it than
`maxHeader`. The messages before that count are complete. -/
def CutsLongCount (front back : Bytes) : Prop :=
  ∃ start early late rest n,
    front = start ++ early ∧ back = late ++ Bytes.space :: rest ∧
    (empty.push start).drain.fault = none ∧ (empty.push start).drain.decoder = empty ∧
    length? (early ++ late) = some n ∧ n ≤ maxSize ∧ maxHeader < early.length

/-- Feeding ends at the first cut where the bytes so far end in a fault, or else at the end. Up to
there the pieces come to the same as the whole. -/
theorem exists_feed_eq_drain (hWaiting : d.next = (.ok none, d)) (pieces : List Bytes) :
    ∃ front back, pieces = front ++ back ∧ d.feed pieces = (d.push front.flatten).drain ∧
      (∀ first second, front = first ++ second → second ≠ [] →
        (d.push first.flatten).drain.fault = none) ∧
      (back = [] ∨ (d.push front.flatten).drain.fault ≠ none) := by
  induction pieces generalizing d with
  | nil =>
      refine ⟨[], [], rfl, by simp [feed, drain_of_waiting hWaiting], ?_, Or.inl rfl⟩
      intro first second h hSecond
      exact absurd (List.append_eq_nil_iff.1 h.symm).2 hSecond
  | cons piece pieces ih =>
      have hAlone : (d.push ([] : List Bytes).flatten).drain.fault = none := by
        simp [drain_of_waiting hWaiting]
      cases hFault : (d.push piece).drain.fault with
      | some f =>
          refine ⟨[piece], pieces, rfl, by simp [feed, hFault], ?_, Or.inr (by simp [hFault])⟩
          intro first second h hSecond
          cases first with
          | nil => exact hAlone
          | cons other first => simp_all
      | none =>
          -- the decoder that the first piece leaves was asked in vain
          have hNext := next_of_drain (d.push piece)
          rw [hFault] at hNext
          have hWhole (more : List Bytes) : (d.push (piece :: more).flatten).drain =
              ((d.push piece).drain.decoder.push more.flatten).drain.prepend
                (d.push piece).drain.bodies := by
            rw [List.flatten_cons, push_append, drain_push]
          obtain ⟨front, back, rfl, hFeed, hClean, hEnd⟩ := ih hNext
          refine ⟨piece :: front, back, rfl, ?_, ?_, ?_⟩
          · simp only [feed, hFault, hWhole, ← hFeed]
            rfl
          · intro first second h hSecond
            cases first with
            | nil => exact hAlone
            | cons other first =>
                obtain ⟨rfl, hFront⟩ := List.cons.inj h
                rw [hWhole]
                exact hClean first second hFront hSecond
          · rw [hWhole]
            exact hEnd

/-- What stands in front of a count without an end was decoded before. -/
theorem exists_start_of_unterminated (h : d.drain.fault = some .unterminated) :
    ∃ start, d.buffer = start ++ d.drain.decoder.buffer ∧
      (⟨start, d.expected⟩ : Decoder).drain = ⟨d.drain.bodies, none, empty⟩ := by
  induction d using drain_induction with
  | body d d' body hNext ih =>
      rw [drain_of_body hNext] at h ⊢
      obtain ⟨start, hStart, hDrain⟩ := ih h
      obtain ⟨consumed, hConsumed, hExpected, hAlone⟩ := exists_consumed_of_body hNext
      refine ⟨consumed ++ start, ?_, ?_⟩
      · rw [hConsumed, hStart, List.append_assoc]
        rfl
      · have hMore := next_push_of_body hAlone start
        rw [hExpected] at hDrain
        rw [show (⟨consumed ++ start, d.expected⟩ : Decoder) =
          (⟨consumed, d.expected⟩ : Decoder).push start from rfl, drain_of_body hMore]
        simp [push, empty, hDrain, Drained.prepend]
  | waiting d d' hNext =>
      rw [drain_of_waiting hNext] at h
      cases h
  | fault d d' f hNext =>
      rw [drain_of_fault hNext]
      obtain ⟨hExpected, -, rfl⟩ := next_eq_error_iff.1 hNext
      obtain ⟨gap, hGap⟩ := Bytes.exists_eq_replicate_append_dropSpaces d.buffer
      have hSpaces := Bytes.dropSpaces_replicate_append gap []
      refine ⟨List.replicate gap Bytes.space, hGap, drain_of_waiting ?_⟩
      rw [List.append_nil] at hSpaces
      rw [hExpected]
      simp only [next, hSpaces]
      rfl

/-- A decoder that met a count without an end holds just that count. -/
theorem drained_of_unterminated (h : d.drain.fault = some .unterminated) :
    d.drain.decoder.expected = none ∧ Bytes.space ∉ d.drain.decoder.buffer ∧
      maxHeader < d.drain.decoder.buffer.length := by
  have hNext := next_of_drain d
  rw [h] at hNext
  obtain ⟨hExpected, hHeader, hDecoder⟩ := next_eq_error_iff.1 hNext
  have hBuffer : d.drain.decoder.buffer.dropSpaces = d.drain.decoder.buffer :=
    congrArg Decoder.buffer hDecoder.symm
  rw [hBuffer] at hHeader
  exact ⟨hExpected, header?_eq_error_unterminated_iff.1 hHeader⟩

/-- Unless the cut falls into a valid count, a decoder that met a count without an end meets a fault
again when the rest has come. -/
theorem exists_fault_of_unterminated {front back : Bytes}
    (h : (empty.push front).drain.fault = some .unterminated) (hCut : ¬ CutsLongCount front back) :
    ∃ f d', ((empty.push front).drain.decoder.push back).next = (.error f, d') := by
  obtain ⟨hExpected, hSpace, hLong⟩ := drained_of_unterminated h
  obtain ⟨start, hStart, hDrain⟩ := exists_start_of_unterminated h
  generalize (empty.push front).drain.decoder = stuck at *
  obtain ⟨early, expected⟩ := stuck
  obtain rfl : expected = none := hExpected
  have hNe : early ≠ [] := by
    rintro rfl
    simp at hLong
  have hDrop : (early ++ back).dropSpaces = early ++ back := by
    rw [Bytes.dropSpaces_append_of_ne_nil] <;> rw [Bytes.dropSpaces_of_notMem hSpace]
    exact hNe
  cases hHeader : header? (early ++ back) with
  | error f => exact ⟨f, _, next_eq_error_iff.2 ⟨rfl, by rw [push_buffer, hDrop, hHeader], rfl⟩⟩
  | ok found =>
      cases found with
      | none =>
          have hShort := (header?_eq_none_iff.1 hHeader).2
          have hEarly : maxHeader < early.length := hLong
          rw [List.length_append] at hShort
          omega
      | some found =>
          obtain ⟨n, rest⟩ := found
          obtain ⟨header, hSplit, hn, hMax⟩ := header?_eq_some_iff.1 hHeader
          cases hBack : back.splitAtSpace? with
          | none =>
              have hNone : (early ++ back).splitAtSpace? = none := by
                simpa [Bytes.splitAtSpace?_eq_none_iff, hSpace] using hBack
              rw [hNone] at hSplit
              cases hSplit
          | some parts =>
              obtain ⟨late, rest'⟩ := parts
              obtain ⟨rfl, hLate⟩ := Bytes.splitAtSpace?_eq_some_iff.1 hBack
              have hSame : (early ++ (late ++ Bytes.space :: rest')).splitAtSpace? =
                  some (early ++ late, rest') := by
                rw [← List.append_assoc]
                exact Bytes.splitAtSpace?_append (by simp [hSpace, hLate])
              cases hSplit.symm.trans hSame
              refine absurd ⟨start, early, late, rest, n, ?_, rfl, ?_, ?_, hn, hMax, hLong⟩ hCut
              · simpa [empty] using hStart
              · exact congrArg Drained.fault hDrain
              · exact congrArg Drained.decoder hDrain

/-- Before the cut into a long count the bytes end in a fault, but with the rest they do not. -/
theorem CutsLongCount.drain {front back : Bytes} (h : CutsLongCount front back) :
    (empty.push front).drain.fault = some .unterminated ∧
      ∀ f, ((empty.push front).drain.decoder.push back).next.1 ≠ .error f := by
  obtain ⟨start, early, late, rest, n, rfl, rfl, hClean, hEmpty, hn, hMax, hLong⟩ := h
  have hSpace : Bytes.space ∉ early ++ late := space_notMem_of_length? hn
  have hEarly : Bytes.space ∉ early := fun h => hSpace (List.mem_append_left _ h)
  have hNext : (empty.push early).next = (.error .unterminated, ⟨early, none⟩) := by
    have hBuffer : (empty.push early).buffer.dropSpaces = early := Bytes.dropSpaces_of_notMem hEarly
    rw [next_eq_error_iff, hBuffer]
    exact ⟨rfl, header?_eq_error_unterminated_iff.2 ⟨hEarly, hLong⟩, rfl⟩
  have hDrain : (empty.push (start ++ early)).drain =
      ⟨(empty.push start).drain.bodies, some .unterminated, ⟨early, none⟩⟩ := by
    rw [push_append, drain_push, hEmpty, drain_of_fault hNext]
    simp [Drained.prepend]
  refine ⟨by rw [hDrain], ?_⟩
  intro f hf
  have hHeader : header? (early ++ (late ++ Bytes.space :: rest)) = .ok (some (n, rest)) := by
    rw [← List.append_assoc]
    exact header?_eq_some_iff.2 ⟨_, Bytes.splitAtSpace?_append hSpace, hn, hMax⟩
  have hError := (next_eq_error_iff.1 (Prod.ext hf rfl)).2.1
  have hNe : early ≠ [] := by
    rintro rfl
    simp at hLong
  rw [hDrain, push_buffer, Bytes.dropSpaces_append_of_ne_nil] at hError <;>
    rw [Bytes.dropSpaces_of_notMem hEarly] at *
  · rw [hHeader] at hError
    cases hError
  · exact hNe

/-- Draining a decoder that does not meet a fault at once hands out a body or meets none at all. -/
theorem fault_eq_none_of_drain (h : ∀ f, d.next.1 ≠ .error f) (hBodies : d.drain.bodies = []) :
    d.drain.fault = none := by
  rcases hd : d.next with ⟨answer, d'⟩
  match answer with
  | .ok (some body) =>
      rw [drain_of_body hd] at hBodies
      cases hBodies
  | .ok none => rw [drain_of_waiting hd]
  | .error f => exact absurd (by rw [hd]) (h f)

theorem drain_flatten_append (front back : List Bytes) :
    (empty.push (front ++ back).flatten).drain =
      ((empty.push front.flatten).drain.decoder.push back.flatten).drain.prepend
        (empty.push front.flatten).drain.bodies := by
  rw [List.flatten_append, push_append, drain_push]

/-- Feeding stops at a cut into a long count, or earlier, while the whole stream goes on: what the
whole gives after the cut is a body that feeding does not give, or it ends without a fault. -/
theorem CutsLongCount.not_agrees {front back : List Bytes}
    (h : CutsLongCount front.flatten back.flatten) :
    ¬ (empty.feed (front ++ back)).Agrees (empty.push (front ++ back).flatten).drain := by
  intro hAgrees
  obtain ⟨read, left, hPieces, hFeed, hClean, hEnd⟩ :=
    exists_feed_eq_drain (d := empty) rfl (front ++ back)
  obtain ⟨hFault, hNoFault⟩ := h.drain
  -- feeding has stopped before this cut, since it never goes past a fault
  obtain ⟨mid, rfl, rfl⟩ : ∃ mid, front = read ++ mid ∧ left = mid ++ back := by
    rcases List.append_eq_append_iff.1 hPieces.symm with ⟨mid, hFront, hLeft⟩ | ⟨mid, hRead, hBack⟩
    · exact ⟨mid, hFront, hLeft⟩
    · cases mid with
      | nil => exact ⟨[], by simpa using hRead.symm, by simpa using hBack.symm⟩
      | cons piece mid =>
          rw [hClean front (piece :: mid) hRead (by simp)] at hFault
          cases hFault
  have hStopped : (empty.push read.flatten).drain.fault ≠ none := by
    rcases hEnd with hNil | hStop
    · obtain ⟨-, rfl⟩ := List.append_eq_nil_iff.1 hNil
      obtain ⟨_, _, late, rest, _, _, hNil, _⟩ := h
      simp at hNil
    · exact hStop
  have hBodies := hAgrees.bodies
  have hSome := hAgrees.fault
  rw [hFeed, drain_flatten_append (read ++ mid)] at hBodies hSome
  generalize (empty.push (read ++ mid).flatten).drain.decoder.push back.flatten = later at *
  have hNil : later.drain.bodies = [] := by
    have hLength := congrArg List.length hBodies
    simp only [drain_flatten_append, Drained.prepend_bodies, List.length_append] at hLength
    exact List.eq_nil_of_length_eq_zero (by omega)
  rw [Drained.prepend_fault, fault_eq_none_of_drain hNoFault hNil] at hSome
  exact hStopped (Option.isNone_iff_eq_none.1 (by simpa using hSome))

/-- Without such a cut the fault at which feeding stops is met in the whole stream as well. -/
theorem agrees_of_no_cut {pieces : List Bytes}
    (h : ∀ front back, pieces = front ++ back → ¬ CutsLongCount front.flatten back.flatten) :
    (empty.feed pieces).Agrees (empty.push pieces.flatten).drain := by
  obtain ⟨front, back, rfl, hFeed, -, hEnd⟩ := exists_feed_eq_drain (d := empty) rfl pieces
  rw [hFeed]
  rcases hEnd with rfl | hStop
  · rw [List.append_nil]
    exact ⟨rfl, rfl, fun _ _ => rfl, fun _ _ => rfl⟩
  · obtain ⟨f, hf⟩ := Option.ne_none_iff_exists'.1 hStop
    obtain ⟨g, d', hNext⟩ : ∃ g d',
        ((empty.push front.flatten).drain.decoder.push back.flatten).next = (.error g, d') := by
      by_cases hUnterminated : f = .unterminated
      · exact exists_fault_of_unterminated (hUnterminated ▸ hf) (h front back rfl)
      · have hAgain := next_of_drain (empty.push front.flatten)
        rw [hf] at hAgain
        obtain ⟨d', hNext⟩ := next_push_of_fault hAgain hUnterminated back.flatten
        exact ⟨f, d', hNext⟩
    rw [drain_flatten_append, drain_of_fault hNext]
    refine ⟨by simp, by simp [hf], ?_, ?_⟩
    · intro hNone
      exact absurd hNone hStop
    · intro hNone
      exact absurd hNone hStop

/-- A stream in pieces and the same stream in one piece give the same bodies, end in a fault alike,
and leave decoders alike, exactly if no cut falls into a valid count after more digits of it than
`maxHeader`. -/
theorem feed_agrees_drain_iff (pieces : List Bytes) :
    (empty.feed pieces).Agrees (empty.push pieces.flatten).drain ↔
      ∀ front back, pieces = front ++ back → ¬ CutsLongCount front.flatten back.flatten := by
  constructor
  · rintro hAgrees front back rfl hCut
    exact hCut.not_agrees hAgrees
  · exact agrees_of_no_cut

/-- A count of twenty-one digits is accepted with its space and refused before it. -/
theorem not_agrees_of_cut_before_space :
    ¬ (empty.feed [Utf8.encode "000000000000000000005", Utf8.encode " hello"]).Agrees
      (empty.push (Utf8.encode "000000000000000000005 hello")).drain := by
  intro h
  have hBodies := h.bodies
  revert hBodies
  decide +kernel

end Decoder

end DocWire.Frame

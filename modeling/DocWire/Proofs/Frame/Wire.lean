import DocWire.Proofs.Decimal.Text
import DocWire.Proofs.Frame.Decoding
import DocWire.Proofs.Text.Utf8

/-! What a decoder holds and what is still to come are together what is left of the stream. Asked
for a body, it hands out the frame at the front or waits for more of it, whatever part has arrived.
-/

namespace DocWire.Frame

theorem length?_encode_text {n : Nat} (h : n ≤ Decimal.maxWord) :
    length? (Utf8.encode (Decimal.text n)) = some n := by
  have hNat :
      (Utf8.encode (Decimal.text n)).map UInt8.toNat = (Decimal.digits n).map Char.toNat := by
    rw [Decimal.encode_text, List.map_map]
    refine List.map_congr_left fun c hc => ?_
    obtain ⟨d, hd, rfl⟩ := Decimal.exists_digitChar_of_mem hc
    have hCode := Decimal.digitChar_toNat hd
    rw [Function.comp_apply]
    apply Utf8.toNat_toUInt8
    omega
  rw [length?_eq_some_iff, hNat]
  exact ⟨Decimal.encode_text_ne_nil n, Decimal.readDigits_digits h⟩

theorem encode_append (body x : Bytes) :
    encode body ++ x = Utf8.encode (Decimal.text body.length) ++ Bytes.space :: (body ++ x) := by
  simp [encode]

theorem header?_encode_append {body : Bytes} (h : body.length ≤ maxSize) (x : Bytes) :
    header? (encode body ++ x) = .ok (some (body.length, body ++ x)) := by
  have hWord : body.length ≤ Decimal.maxWord := Nat.le_trans h (by decide)
  rw [encode_append, header?_eq_some_iff]
  exact ⟨_, Bytes.splitAtSpace?_append (Decimal.space_notMem_encode_text _),
    length?_encode_text hWord, h⟩

theorem length_encode_text_le {n : Nat} (h : n ≤ maxSize) :
    (Utf8.encode (Decimal.text n)).length ≤ maxHeader := by
  rw [Decimal.encode_text, List.length_map]
  calc
    (Decimal.digits n).length ≤ (Decimal.digits maxSize).length := Decimal.length_digits_le h
    _ ≤ maxHeader := by decide +kernel

theorem dropSpaces_encode_text_append (n : Nat) (x : Bytes) :
    Bytes.dropSpaces (Utf8.encode (Decimal.text n) ++ x) = Utf8.encode (Decimal.text n) ++ x := by
  have hCount := Bytes.dropSpaces_of_notMem (Decimal.space_notMem_encode_text n)
  rw [Bytes.dropSpaces_append_of_ne_nil] <;> rw [hCount]
  exact Decimal.encode_text_ne_nil n

/-- A written count and what follows it are read in one way only. -/
theorem encode_text_append_inj {m n : Nat} {x y : Bytes}
    (h : Utf8.encode (Decimal.text m) ++ Bytes.space :: x =
      Utf8.encode (Decimal.text n) ++ Bytes.space :: y) : m = n ∧ x = y := by
  have hSplit := congrArg Bytes.splitAtSpace? h
  rw [Bytes.splitAtSpace?_append (Decimal.space_notMem_encode_text _),
    Bytes.splitAtSpace?_append (Decimal.space_notMem_encode_text _)] at hSplit
  obtain ⟨hCount, hRest⟩ := Prod.mk.inj (Option.some.inj hSplit)
  exact ⟨Decimal.text_injective (Utf8.encode_injective hCount), hRest⟩

namespace Decoder

variable {d : Decoder} {x y s body more : Bytes} {gap : Nat}

/-- What a decoder holds, with the count that it has read written out. -/
def unread (d : Decoder) : Bytes :=
  match d.expected with
  | none => d.buffer
  | some n => Utf8.encode (Decimal.text n) ++ Bytes.space :: d.buffer

/-- What the decoder holds and the bytes `x` to come are the stream `s`, but for spaces in front. -/
def Ahead (d : Decoder) (x s : Bytes) : Prop :=
  ∃ gap, s = List.replicate gap Bytes.space ++ (d.unread ++ x)

theorem unread_push (d : Decoder) (y : Bytes) : (d.push y).unread = d.unread ++ y := by
  obtain ⟨buffer, expected⟩ := d
  cases expected <;> simp [unread, push]

theorem ahead_push : (d.push y).Ahead x s ↔ d.Ahead (y ++ x) s := by
  rw [Ahead, Ahead, unread_push]
  simp only [List.append_assoc]

theorem ahead_empty (x : Bytes) : empty.Ahead x x :=
  ⟨0, rfl⟩

theorem Ahead.append (h : d.Ahead x s) (y : Bytes) : d.Ahead (x ++ y) (s ++ y) := by
  obtain ⟨gap, rfl⟩ := h
  exact ⟨gap, by simp only [List.append_assoc]⟩

theorem Ahead.length_le (h : d.Ahead x s) : x.length ≤ s.length := by
  obtain ⟨gap, rfl⟩ := h
  simp only [List.length_append]
  omega

/-- When nothing is left of the stream, the decoder holds nothing and waits for no body. -/
theorem Ahead.eq_empty (h : d.Ahead x []) : d = empty := by
  obtain ⟨gap, hNil⟩ := h
  have hUnread : d.unread = [] :=
    (List.append_eq_nil_iff.1 (List.append_eq_nil_iff.1 hNil.symm).2).1
  obtain ⟨buffer, expected⟩ := d
  cases expected with
  | none => exact congrArg (Decoder.mk · none) hUnread
  | some n => simp [unread] at hUnread

/-- Spaces in front of the stream are spaces in front of what the decoder holds. -/
theorem Ahead.of_dropSpaces (h : (⟨x, none⟩ : Decoder).Ahead y s) :
    (⟨x.dropSpaces, none⟩ : Decoder).Ahead y s := by
  obtain ⟨gap, rfl⟩ := h
  obtain ⟨n, hn⟩ := x.exists_eq_replicate_append_dropSpaces
  refine ⟨gap + n, ?_⟩
  calc
    List.replicate gap Bytes.space ++ (x ++ y)
    _ = List.replicate gap Bytes.space ++
        ((List.replicate n Bytes.space ++ x.dropSpaces) ++ y) := by rw [← hn]
    _ = List.replicate (gap + n) Bytes.space ++ (x.dropSpaces ++ y) := by
        rw [← List.replicate_append_replicate, List.append_assoc, List.append_assoc]

/-- Whoever waits for the body at the front of the stream takes it or goes on waiting. -/
theorem takeBody_of_append {held : Bytes} (h : held ++ x = body ++ more) :
    takeBody body.length held = (.ok none, ⟨held, some body.length⟩) ∨
      ∃ rest, takeBody body.length held = (.ok (some body), ⟨rest, none⟩) ∧ rest ++ x = more := by
  unfold takeBody
  by_cases hShort : held.length < body.length
  · exact Or.inl (if_pos hShort)
  · have hLong : body.length ≤ held.length := Nat.not_lt.1 hShort
    refine Or.inr ⟨held.drop body.length, ?_, ?_⟩
    · have hTake : held.take body.length = body := by
        have hFront := congrArg (List.take body.length) h
        rw [List.take_append_of_le_length hLong, List.take_left] at hFront
        exact hFront
      rw [if_neg hShort, hTake]
    · have hBack := congrArg (List.drop body.length) h
      rw [List.drop_append_of_le_length hLong, List.drop_left] at hBack
      exact hBack

theorem ahead_takeBody {held : Bytes} (h : held ++ x = body ++ more) (gap : Nat) :
    ((takeBody body.length held).1 = .ok none ∧
      (takeBody body.length held).2.Ahead x
        (List.replicate gap Bytes.space ++ (encode body ++ more))) ∨
    ((takeBody body.length held).1 = .ok (some body) ∧
      (takeBody body.length held).2.Ahead x more) := by
  rcases takeBody_of_append h with hTake | ⟨rest, hTake, hRest⟩
  · refine Or.inl ⟨congrArg Prod.fst hTake, gap, ?_⟩
    rw [hTake, encode_append, ← h]
    simp [unread]
  · refine Or.inr ⟨congrArg Prod.fst hTake, 0, ?_⟩
    rw [hTake]
    exact hRest.symm

/-- The count of a frame is short enough to be waited for. -/
theorem header?_ne_unterminated {held : Bytes} (h : held ++ x = encode body ++ more)
    (hSize : body.length ≤ maxSize) : header? held ≠ .error .unterminated := by
  intro hFault
  obtain ⟨hSpace, hLong⟩ := header?_eq_error_unterminated_iff.1 hFault
  have hShort := length_encode_text_le hSize
  rw [encode_append] at h
  rcases List.append_eq_append_iff.1 h with ⟨mid, hCount, -⟩ | ⟨mid, rfl, hMid⟩
  · have hLength := congrArg List.length hCount
    rw [List.length_append] at hLength
    omega
  · cases mid with
    | nil =>
        rw [List.append_nil] at hLong
        omega
    | cons b mid =>
        obtain ⟨rfl, -⟩ := List.cons.inj hMid
        exact hSpace (List.mem_append_right _ (List.mem_cons_self ..))

/-- On a stream that goes on with a frame a decoder meets no fault: it hands out the frame's body,
or waits for the rest of the frame. -/
theorem next_of_frame
    (h : d.Ahead x (List.replicate gap Bytes.space ++ (encode body ++ more)))
    (hSize : body.length ≤ maxSize) :
    (d.next.1 = .ok none ∧
      d.next.2.Ahead x (List.replicate gap Bytes.space ++ (encode body ++ more))) ∨
    (d.next.1 = .ok (some body) ∧ d.next.2.Ahead x more) := by
  obtain ⟨buffer, expected⟩ := d
  cases expected with
  | some n =>
      -- the count that was read is the frame's
      obtain ⟨gap', hStream⟩ := h
      have hFront := congrArg Bytes.dropSpaces hStream
      simp only [unread, List.append_assoc, List.cons_append, encode_append,
        Bytes.dropSpaces_replicate_append, dropSpaces_encode_text_append] at hFront
      obtain ⟨rfl, hHeld⟩ := encode_text_append_inj hFront
      exact ahead_takeBody hHeld.symm gap
  | none =>
      have hAhead := h.of_dropSpaces
      have hDropped : buffer.dropSpaces.dropSpaces = buffer.dropSpaces :=
        Bytes.dropSpaces_dropSpaces buffer
      simp only [next]
      generalize buffer.dropSpaces = held at hAhead hDropped ⊢
      by_cases hNil : held = []
      · rw [hNil] at hAhead ⊢
        exact Or.inl ⟨rfl, hAhead⟩
      · have hFront : held ++ x = encode body ++ more := by
          obtain ⟨gap', hStream⟩ := hAhead
          have hDrop := congrArg Bytes.dropSpaces hStream
          rw [Bytes.dropSpaces_replicate_append, Bytes.dropSpaces_replicate_append, encode_append,
            dropSpaces_encode_text_append, unread,
            Bytes.dropSpaces_append_of_ne_nil (hDropped.symm ▸ hNil), hDropped] at hDrop
          rw [encode_append]
          exact hDrop.symm
        have hHeader := header?_encode_append hSize more
        rw [← hFront] at hHeader
        unfold takeFrame
        split
        next f hFault =>
          have hSame := header?_append_of_error hFault
            (fun hf => header?_ne_unterminated hFront hSize (hf ▸ hFault)) x
          rw [hHeader] at hSame
          cases hSame
        · exact Or.inl ⟨rfl, hAhead⟩
        next n rest hRead =>
          have hSame := header?_append hRead x
          rw [hHeader] at hSame
          simp only [Except.ok.injEq, Option.some.injEq, Prod.mk.injEq] at hSame
          obtain ⟨rfl, hRest⟩ := hSame
          exact ahead_takeBody hRest.symm gap

/-- A frame that has arrived to its end is handed out at once, also by a decoder that has read its
count before. -/
theorem next_of_arrived
    (h : d.Ahead [] (List.replicate gap Bytes.space ++ (encode body ++ more)))
    (hSize : body.length ≤ maxSize) : d.next.1 = .ok (some body) := by
  obtain ⟨buffer, expected⟩ := d
  obtain ⟨gap', hStream⟩ := h
  have hFront := congrArg Bytes.dropSpaces hStream
  rw [List.append_nil, Bytes.dropSpaces_replicate_append,
    Bytes.dropSpaces_replicate_append] at hFront
  have hBody : takeBody body.length (body ++ more) = (.ok (some body), ⟨more, none⟩) := by
    simp [takeBody]
  cases expected with
  | some n =>
      simp only [unread, encode_append, dropSpaces_encode_text_append] at hFront
      obtain ⟨rfl, rfl⟩ := encode_text_append_inj hFront
      exact congrArg Prod.fst hBody
  | none =>
      have hHeld : buffer.dropSpaces = encode body ++ more := by
        rw [← show Bytes.dropSpaces (encode body ++ more) = buffer.dropSpaces from hFront,
          encode_append, dropSpaces_encode_text_append]
      simp only [next, hHeld, takeFrame, header?_encode_append hSize, hBody]

/-- A decoder that waits in front of a frame whose rest comes in pieces gets one more piece. -/
theorem pieces_of_waiting {pieces : List Bytes}
    (h : d.Ahead pieces.flatten (List.replicate gap Bytes.space ++ (encode body ++ more)))
    (hSize : body.length ≤ maxSize) (hWaits : d.next.1 = .ok none) :
    ∃ piece rest, pieces = piece :: rest ∧ d.next.2.Ahead (piece ++ rest.flatten)
      (List.replicate gap Bytes.space ++ (encode body ++ more)) := by
  cases pieces with
  | nil => cases hWaits.symm.trans (next_of_arrived h hSize)
  | cons piece rest =>
      rcases next_of_frame h hSize with ⟨-, hLeft⟩ | ⟨hTakes, -⟩
      · exact ⟨piece, rest, rfl, hLeft⟩
      · cases hWaits.symm.trans hTakes

/-- On a stream that goes on with a frame a decoder hands out the frame's body exactly if what is to
come begins behind the frame. -/
theorem next_of_ahead (h : d.Ahead x (List.replicate gap Bytes.space ++ (encode body ++ more)))
    (hSize : body.length ≤ maxSize) :
    (x.length ≤ more.length ∧ d.next.1 = .ok (some body)) ∨
    (more.length < x.length ∧ d.next.1 = .ok none ∧
      d.next.2.Ahead x (List.replicate gap Bytes.space ++ (encode body ++ more))) := by
  rcases next_of_frame h hSize with ⟨hNext, hLeft⟩ | ⟨hNext, hLeft⟩
  · refine .inr ⟨Nat.lt_of_not_le fun hShort => ?_, hNext, hLeft⟩
    obtain ⟨gap', hStream⟩ := h
    rw [← List.append_assoc, ← List.append_assoc] at hStream
    -- the frame has arrived, and some of what follows it
    obtain ⟨y, rfl⟩ : x <:+ more := List.suffix_of_suffix_length_le ⟨_, hStream.symm⟩ ⟨_, rfl⟩
      hShort
    rw [← List.append_assoc] at hStream
    have hArrived : d.Ahead [] (List.replicate gap Bytes.space ++ (encode body ++ y)) := by
      refine ⟨gap', ?_⟩
      rw [List.append_nil, ← List.append_cancel_right hStream, List.append_assoc]
    cases hNext.symm.trans (next_of_arrived hArrived hSize)
  · exact .inl ⟨hLeft.length_le, hNext⟩

/-- On a stream that goes on with nothing but spaces a decoder waits. -/
theorem next_of_spaces (h : d.Ahead x (List.replicate gap Bytes.space)) :
    d.next.1 = .ok none ∧ d.next.2.Ahead x (List.replicate gap Bytes.space) := by
  obtain ⟨buffer, expected⟩ := d
  obtain ⟨gap', hStream⟩ := id h
  have hSpaces : ∀ b ∈ (⟨buffer, expected⟩ : Decoder).unread, b = Bytes.space := by
    intro b hb
    have hMem : b ∈ List.replicate gap Bytes.space := by
      rw [hStream]
      exact List.mem_append_right _ (List.mem_append_left _ hb)
    exact List.eq_of_mem_replicate hMem
  cases expected with
  | some n =>
      obtain ⟨b, count, hCount⟩ := List.exists_cons_of_ne_nil (Decimal.encode_text_ne_nil n)
      have hFirst : b ∈ Utf8.encode (Decimal.text n) := hCount ▸ List.mem_cons_self ..
      have hSpace : b = Bytes.space := hSpaces b (List.mem_append_left _ hFirst)
      exact absurd (hSpace ▸ hFirst) (Decimal.space_notMem_encode_text n)
  | none =>
      have hNil : buffer.dropSpaces = [] := by
        have hBuffer : buffer = List.replicate buffer.length Bytes.space ++ [] := by
          rw [List.append_nil]
          exact List.eq_replicate_of_mem hSpaces
        rw [hBuffer, Bytes.dropSpaces_replicate_append]
        rfl
      have hAhead := h.of_dropSpaces
      simp only [next]
      rw [hNil] at hAhead ⊢
      exact ⟨rfl, hAhead⟩

end Decoder

end DocWire.Frame

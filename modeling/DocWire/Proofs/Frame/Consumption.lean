import DocWire.Proofs.Frame.Conservation

/-! A question consumes a frame exactly if one is at the front of what is held. Several questions in
vain, with bytes in between, consume what one question would have consumed after all of these bytes.
-/

namespace DocWire.Frame

theorem IsCount.length? {digits : Bytes} {n : Nat} (h : IsCount digits n) :
    Frame.length? digits = some n := by
  have hWord : maxSize ≤ Decimal.maxWord := by decide
  apply length?_eq_some_iff.2
  refine ⟨h.nonempty, Decimal.readDigits_bytes_eq_ok_iff.2 ⟨h.ascii, h.value, ?_⟩⟩
  exact Nat.le_trans h.small hWord

theorem IsCount.space_notMem {digits : Bytes} {n : Nat} (h : IsCount digits n) :
    Bytes.space ∉ digits := by
  intro hMem
  have hLow := (h.ascii _ hMem).1
  simp [Bytes.space] at hLow

namespace Decoder

variable {d d' d'' : Decoder} {body x : Bytes} {answer : Except Fault (Option Bytes)}

theorem takeBody_append_of_length (body more : Bytes) :
    takeBody body.length (body ++ more) = (.ok (some body), ⟨more, none⟩) := by
  simp [takeBody]

/-- What is consumed as a frame is handed out. -/
theorem next_of_consumes (h : d.Consumes d' (.ok (some body))) :
    d.next = (.ok (some body), d') := by
  obtain ⟨hExpected, front, hFront, hBuffer⟩ := h
  obtain ⟨buffer, expected⟩ := d
  obtain ⟨more, expected'⟩ := d'
  dsimp only at hExpected hFront hBuffer
  subst hExpected hBuffer
  generalize hSize : some body.length = size at hFront
  cases hFront with
  | spaces gap => cases hSize
  | nothing n =>
      cases hSize
      exact takeBody_append_of_length body more
  | @count gap digits n hCount =>
      cases hSize
      have hFirst : (digits ++ Bytes.space :: (body ++ more)).dropSpaces =
          digits ++ Bytes.space :: (body ++ more) := by
        have hSame := Bytes.dropSpaces_of_notMem hCount.space_notMem
        rw [Bytes.dropSpaces_append_of_ne_nil (by rw [hSame]; exact hCount.nonempty), hSame]
      have hHeader : header? (digits ++ Bytes.space :: (body ++ more)) =
          .ok (some (body.length, body ++ more)) :=
        header?_eq_some_iff.2
          ⟨digits, Bytes.splitAtSpace?_append hCount.space_notMem, hCount.length?, hCount.small⟩
      have hStream : List.replicate gap Bytes.space ++ (digits ++ [Bytes.space]) ++ (body ++ more) =
          List.replicate gap Bytes.space ++ (digits ++ Bytes.space :: (body ++ more)) := by simp
      rw [hStream]
      simp only [next, Bytes.dropSpaces_replicate_append, hFirst, takeFrame, hHeader]
      exact takeBody_append_of_length body more

/-- A body is handed out exactly if its frame is at the front of what is held. -/
theorem next_eq_body_iff :
    d.next = (.ok (some body), d') ↔ d.Consumes d' (.ok (some body)) := by
  constructor
  · intro h
    have hConsumes := consumes_next d
    rwa [h] at hConsumes
  · exact next_of_consumes

/-- What is left of a frame that was handed out is more than spaces away. -/
theorem Consumes.not_body (h : d.Consumes d' answer) (hAnswer : ∀ body, answer ≠ .ok (some body)) :
    ¬ d.Consumes d' (.ok (some body)) := by
  intro hBody
  have hNext := next_of_consumes hBody
  have hSpaces : d.expected = none ∧ ∃ gap, d.buffer =
      List.replicate gap Bytes.space ++ d'.buffer := by
    match answer with
    | .ok (some body) => exact absurd rfl (hAnswer body)
    | .ok none =>
        obtain ⟨front, hFront, hBuffer⟩ := h
        rw [hBody.1] at hFront
        generalize hBefore : d.expected = before at hFront
        cases hFront with
        | spaces gap => exact ⟨rfl, gap, hBuffer⟩
    | .error f => exact ⟨h.1, h.2.2⟩
  obtain ⟨hExpected, gap, hBuffer⟩ := hSpaces
  have hTaken : takeFrame d.buffer.dropSpaces = (.ok (some body), d') := by
    rw [← hNext, next, hExpected]
  have hLess := weight_of_takeFrame hTaken
  have hShort := d'.buffer.length_dropSpaces_le
  rw [hBuffer, Bytes.dropSpaces_replicate_append] at hLess
  simp only [weight, hBody.1] at hLess
  omega

theorem Consumes.refl (d : Decoder) : d.Consumes d (.ok none) := by
  obtain ⟨buffer, expected⟩ := d
  cases expected with
  | none => exact ⟨[], .spaces 0, rfl⟩
  | some n => exact ⟨[], .nothing n, rfl⟩

theorem Consumes.push (h : d.Consumes d' (.ok none)) (x : Bytes) :
    (d.push x).Consumes (d'.push x) (.ok none) := by
  obtain ⟨front, hFront, hBuffer⟩ := h
  refine ⟨front, hFront, ?_⟩
  rw [push_buffer, push_buffer, hBuffer, List.append_assoc]

/-- What is consumed after a question in vain is consumed behind what that passed over. -/
theorem Consumes.trans (first : d.Consumes d' (.ok none)) (rest : d'.Consumes d'' answer) :
    d.Consumes d'' answer := by
  obtain ⟨front, hFront, hBuffer⟩ := first
  match answer with
  | .ok (some body) =>
      obtain ⟨hExpected, front', hFront', hBuffer'⟩ := rest
      exact ⟨hExpected, front ++ front', hFront.trans hFront', by
        rw [hBuffer, hBuffer', List.append_assoc]⟩
  | .ok none =>
      obtain ⟨front', hFront', hBuffer'⟩ := rest
      exact ⟨front ++ front', hFront.trans hFront', by rw [hBuffer, hBuffer', List.append_assoc]⟩
  | .error f =>
      obtain ⟨hMiddle, hExpected, gap', hBuffer'⟩ := rest
      rw [hMiddle] at hFront
      generalize hBefore : d.expected = before at hFront
      cases hFront with
      | spaces gap =>
          refine ⟨hBefore, hExpected, gap + gap', ?_⟩
          rw [hBuffer, hBuffer', ← List.append_assoc, List.replicate_append_replicate]

/-- While these bytes come in, the decoder hands out these bodies, in order, and no others. -/
inductive HandsOut : Decoder → Bytes → List Bytes → Decoder → Prop
  | rest {d d' : Decoder} {x : Bytes} (h : (d.push x).Consumes d' (.ok none)) : HandsOut d x [] d'
  | body {d d' d'' : Decoder} {x y body : Bytes} {bodies : List Bytes}
      (h : (d.push x).Consumes d' (.ok (some body))) (rest : HandsOut d' y bodies d'') :
      HandsOut d (x ++ y) (body :: bodies) d''

variable {y : Bytes} {bodies bodies' : List Bytes}

theorem HandsOut.start (d : Decoder) : HandsOut d [] [] d :=
  .rest (by rw [push_nil]; exact .refl d)

theorem HandsOut.single (h : (d.push x).Consumes d' (.ok (some body))) :
    HandsOut d x [body] d' := by
  have hOne := HandsOut.body h (.start d')
  rwa [List.append_nil] at hOne

/-- A decoder that has waited hands out what one would that was given everything at once. -/
theorem HandsOut.of_waiting (first : (d.push x).Consumes d' (.ok none))
    (rest : HandsOut d' y bodies d'') : HandsOut d (x ++ y) bodies d'' := by
  cases rest with
  | rest h =>
      refine .rest ?_
      rw [push_append]
      exact (first.push y).trans h
  | @body _ e _ x' y' _ _ h rest =>
      rw [← List.append_assoc]
      refine .body ?_ rest
      rw [push_append]
      exact (first.push x').trans h

theorem HandsOut.append (first : HandsOut d x bodies d') (rest : HandsOut d' y bodies' d'') :
    HandsOut d (x ++ y) (bodies ++ bodies') d'' := by
  induction first with
  | rest h => exact rest.of_waiting h
  | body h _ ih =>
      rw [List.append_assoc]
      exact .body h (ih rest)

end Decoder

end DocWire.Frame

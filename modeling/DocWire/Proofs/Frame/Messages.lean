import DocWire.Frame.Reply
import DocWire.Frame.Request
import DocWire.Proofs.Frame.Chunking
import DocWire.Proofs.Frame.Wire

/-! However a stream of messages is cut into pieces, a decoder hands out the bodies of the complete
ones in their order, meets no fault, and keeps the beginning of the message that is cut short. -/

namespace DocWire

/-- What travels as one frame: a request, or the reply to one. -/
inductive Message where
  | request (r : Request)
  | reply (id : String) (answer : Bytes)
deriving DecidableEq, Repr

namespace Message

/-- The body of the message's frame. -/
def body : Message → Bytes
  | .request r => r.body
  | .reply id answer => Utf8.encode id ++ Bytes.space :: answer

/-- The message as it is written. -/
def encode : Message → Bytes
  | .request r => r.encode
  | .reply id answer => Reply.encode id answer

theorem encode_eq (m : Message) : m.encode = Frame.encode m.body := by
  cases m <;> rfl

end Message

/-- A message and the number of spaces in front of it. -/
structure Spaced where
  gap : Nat
  message : Message
deriving DecidableEq, Repr

/-- The bytes of a message, with the spaces in front. -/
def Spaced.bytes (m : Spaced) : Bytes :=
  List.replicate m.gap Bytes.space ++ m.message.encode

/-- The bytes of messages that follow one another. -/
def stream (messages : List Spaced) : Bytes :=
  messages.flatMap Spaced.bytes

theorem stream_cons (m : Spaced) (messages : List Spaced) :
    stream (m :: messages) = m.bytes ++ stream messages := by
  simp [stream]

/-- A stream begins with the frame of its first message. -/
theorem stream_cons_append (m : Spaced) (messages : List Spaced) (tail : Bytes) :
    stream (m :: messages) ++ tail = List.replicate m.gap Bytes.space ++
      (Frame.encode m.message.body ++ (stream messages ++ tail)) := by
  rw [stream_cons, Spaced.bytes, m.message.encode_eq, List.append_assoc, List.append_assoc]

/-- A stream of complete messages is followed by `tail`, which is a beginning of `last` and not all
of it. No message is too large for a decoder. -/
structure CutShort (messages : List Spaced) (last : Spaced) (tail : Bytes) : Prop where
  sizes : ∀ m ∈ messages, m.message.body.length ≤ Frame.maxSize
  size : last.message.body.length ≤ Frame.maxSize
  begins : tail <+: last.bytes
  cut : tail ≠ last.bytes

variable {messages : List Spaced} {last m : Spaced} {tail s : Bytes}

theorem CutShort.of_cons (h : CutShort (m :: messages) last tail) :
    CutShort messages last tail :=
  ⟨fun x hx => h.sizes x (List.mem_cons_of_mem _ hx), h.size, h.begins, h.cut⟩

/-- What has arrived of a stream that is cut short is a stream that is cut short. -/
theorem CutShort.exists_of_prefix (h : CutShort messages last tail)
    (hArrived : s <+: stream messages ++ tail) :
    ∃ messages' last' tail', s = stream messages' ++ tail' ∧ CutShort messages' last' tail' := by
  induction messages generalizing s with
  | nil =>
      have hShort : s <+: tail := hArrived
      refine ⟨[], last, s, rfl, h.sizes, h.size, hShort.trans h.begins, ?_⟩
      rintro rfl
      exact h.cut (h.begins.eq_of_length_le hShort.length_le)
  | cons m messages ih =>
      rw [stream_cons, List.append_assoc] at hArrived
      have hSize := h.sizes m (List.mem_cons_self ..)
      by_cases hWhole : m.bytes <+: s
      · obtain ⟨more, rfl⟩ := hWhole
        obtain ⟨messages', last', tail', rfl, hCut⟩ :=
          ih h.of_cons ((List.prefix_append_right_inj _).1 hArrived)
        refine ⟨m :: messages', last', tail', ?_, ?_, hCut.size, hCut.begins, hCut.cut⟩
        · rw [stream_cons, List.append_assoc]
        · exact List.forall_mem_cons.2 ⟨hSize, hCut.sizes⟩
      · have hBegins : s <+: m.bytes :=
          (List.prefix_or_prefix_of_prefix hArrived (List.prefix_append ..)).resolve_right hWhole
        refine ⟨[], m, s, rfl, fun _ h => absurd h List.not_mem_nil, hSize, hBegins, ?_⟩
        rintro rfl
        exact hWhole (List.prefix_refl _)

namespace Frame.Decoder

/-- A frame that has arrived as a whole is handed out at once. -/
theorem next_of_whole_frame {body : Bytes} (gap : Nat) (more : Bytes) (h : body.length ≤ maxSize) :
    (⟨List.replicate gap Bytes.space ++ (Frame.encode body ++ more), none⟩ : Decoder).next =
      (.ok (some body), ⟨more, none⟩) := by
  have hFront : Bytes.dropSpaces (Frame.encode body ++ more) = Frame.encode body ++ more := by
    rw [encode_append, dropSpaces_encode_text_append]
  simp only [next, Bytes.dropSpaces_replicate_append, hFront, takeFrame, header?_encode_append h]
  simp [takeBody]

/-- A message at the front of the stream, written out as spaces and a frame. -/
theorem ahead_of_front {d : Decoder} {x more : Bytes} (h : d.unread ++ x = m.bytes ++ more) :
    d.Ahead x
      (List.replicate m.gap Bytes.space ++ (Frame.encode m.message.body ++ more)) := by
  refine ⟨0, ?_⟩
  rw [h, Spaced.bytes, m.message.encode_eq, List.append_assoc]
  rfl

/-- A message at the front of the stream is handed out as soon as all of it has arrived, and not
before. -/
theorem next_of_front {d : Decoder} {x more : Bytes} (h : d.unread ++ x = m.bytes ++ more)
    (hSize : m.message.body.length ≤ maxSize) :
    d.next.1 =
      if m.bytes.length ≤ d.unread.length then .ok (some m.message.body) else .ok none := by
  have hLength := congrArg List.length h
  rw [List.length_append, List.length_append] at hLength
  rcases next_of_ahead (ahead_of_front h) hSize with ⟨hNear, hNext⟩ | ⟨hFar, hNext, -⟩
  · rw [hNext, if_pos (by omega)]
  · rw [hNext, if_neg (by omega)]

/-- A decoder keeps the beginning of a message that is cut short, without the spaces in front of it.
The count has been read if its space is there. -/
structure Keeps (d : Decoder) (last : Spaced) (tail : Bytes) : Prop where
  unread : d.unread = tail.dropSpaces
  expected : d.expected =
    if Bytes.space ∈ tail.dropSpaces then some last.message.body.length else none

/-- A decoder that waits for a count has dropped the spaces in front of it. -/
theorem header?_of_waiting {d : Decoder} (h : d.next = (.ok none, d)) (hCount : d.expected = none) :
    d.buffer.dropSpaces = d.buffer ∧ header? d.buffer = .ok none := by
  obtain ⟨buffer, expected⟩ := d
  obtain rfl : expected = none := hCount
  simp only [next, takeFrame] at h
  split at h
  · cases h
  next hHeader =>
    have hBuffer : buffer.dropSpaces = buffer := congrArg (fun r => r.2.buffer) h
    exact ⟨hBuffer, hBuffer ▸ hHeader⟩
  · unfold takeBody at h
    split at h <;> cases h

/-- Asked in the middle of a message, a decoder waits for the rest. -/
theorem next_of_tail (h : CutShort [] last tail) :
    ∃ d, (⟨tail, none⟩ : Decoder).next = (.ok none, d) ∧ d.Keeps last tail := by
  obtain ⟨rest, hRest⟩ := h.begins
  rw [Spaced.bytes, last.message.encode_eq] at hRest
  have hAhead : (⟨tail, none⟩ : Decoder).Ahead rest
      (List.replicate last.gap Bytes.space ++ (Frame.encode last.message.body ++ [])) :=
    ⟨0, by rw [List.append_nil, ← hRest]; rfl⟩
  rcases next_of_frame hAhead h.size with ⟨hAnswer, hLeft⟩ | ⟨-, hLeft⟩
  · generalize hd : (⟨tail, none⟩ : Decoder).next = asked at hAnswer hLeft
    obtain ⟨answer, d⟩ := asked
    obtain rfl : answer = .ok none := hAnswer
    have hAgain : d.next = (.ok none, d) := by
      have hSame := next_next_of_no_body (d := ⟨tail, none⟩) (by simp [hd])
      rwa [hd] at hSame
    obtain ⟨gap, hGap⟩ := hLeft
    rw [List.append_nil, ← hRest, ← List.append_assoc] at hGap
    have hTail : tail = List.replicate gap Bytes.space ++ d.unread := List.append_cancel_right hGap
    refine ⟨d, rfl, ?_⟩
    cases hExpected : d.expected with
    | none =>
        obtain ⟨hDropped, hHeader⟩ := header?_of_waiting hAgain hExpected
        have hUnread : d.unread = d.buffer := by rw [unread, hExpected]
        have hSame : d.unread = tail.dropSpaces := by
          rw [hTail, Bytes.dropSpaces_replicate_append, hUnread, hDropped]
        refine ⟨hSame, ?_⟩
        rw [← hSame, hUnread, if_neg (header?_eq_none_iff.1 hHeader).1, hExpected]
    | some n =>
        have hUnread : d.unread = Utf8.encode (Decimal.text n) ++ Bytes.space :: d.buffer := by
          rw [unread, hExpected]
        have hSame : d.unread = tail.dropSpaces := by
          rw [hTail, Bytes.dropSpaces_replicate_append, hUnread, dropSpaces_encode_text_append]
        -- the count that was read is that of the message
        have hFront := congrArg Bytes.dropSpaces hRest
        rw [hTail, List.append_assoc, hUnread] at hFront
        simp only [Bytes.dropSpaces_replicate_append, List.append_assoc, List.cons_append,
          Frame.encode, dropSpaces_encode_text_append] at hFront
        obtain ⟨hCount, -⟩ := encode_text_append_inj hFront
        refine ⟨hSame, ?_⟩
        rw [← hSame, hUnread, if_pos (by simp), hExpected, hCount]
  · have hShort := hLeft.length_le
    rw [List.length_nil, Nat.le_zero, List.length_eq_zero_iff] at hShort
    rw [hShort, List.append_nil, ← last.message.encode_eq] at hRest
    exact absurd hRest h.cut

theorem drain_stream (h : CutShort messages last tail) :
    ∃ d, (empty.push (stream messages ++ tail)).drain =
      ⟨messages.map (·.message.body), none, d⟩ ∧ d.Keeps last tail := by
  induction messages with
  | nil =>
      obtain ⟨d, hNext, hKeeps⟩ := next_of_tail h
      exact ⟨d, drain_of_waiting hNext, hKeeps⟩
  | cons m messages ih =>
      obtain ⟨d, hDrain, hKeeps⟩ := ih h.of_cons
      have hNext := next_of_whole_frame m.gap (stream messages ++ tail)
        (h.sizes m (List.mem_cons_self ..))
      refine ⟨d, ?_, hKeeps⟩
      rw [← stream_cons_append] at hNext
      refine (drain_of_body hNext).trans ?_
      exact congrArg (Drained.prepend [m.message.body]) hDrain

/-- However a stream is cut into pieces, a decoder that is asked for all bodies after each piece
hands out those of the complete messages in their order, meets no fault, and keeps the beginning of
the message that is cut short. -/
theorem feed_stream (messages : List Spaced) (last : Spaced) (tail : Bytes) (pieces : List Bytes)
    (hPieces : pieces.flatten = stream messages ++ tail) (hCut : CutShort messages last tail) :
    (empty.feed pieces).bodies = messages.map (·.message.body) ∧
      (empty.feed pieces).fault = none ∧ (empty.feed pieces).decoder.Keeps last tail := by
  obtain ⟨front, back, rfl, hFeed, -, hEnd⟩ := exists_feed_eq_drain (d := empty) rfl pieces
  have hFront : front.flatten <+: stream messages ++ tail := by
    rw [← hPieces, List.flatten_append]
    exact List.prefix_append ..
  -- feeding goes on to the end, for what has arrived before it holds no fault
  obtain ⟨messages', last', tail', hArrived, hCut'⟩ := hCut.exists_of_prefix hFront
  obtain ⟨d', hDrain', -⟩ := drain_stream hCut'
  rw [← hArrived] at hDrain'
  obtain rfl : back = [] := hEnd.resolve_right (by simp [hDrain'])
  obtain ⟨d, hDrain, hKeeps⟩ := drain_stream hCut
  rw [List.append_nil] at hPieces
  rw [hFeed, hPieces, hDrain]
  exact ⟨rfl, rfl, hKeeps⟩

/-- A request with spaces in front, and a reply without an id whose answer looks like a count. -/
def requestThenReply : List Spaced :=
  [⟨2, .request ⟨"0", .get, "version", []⟩⟩, ⟨0, .reply "" (Utf8.encode " 5 ")⟩]

/-- A reply that is going to be cut short. -/
def lateReply : Spaced :=
  ⟨1, .reply "1" (Utf8.encode "Stext")⟩

/-- Byte by byte, with a last reply of which the first five bytes arrive. -/
theorem feed_stream_bytewise :
    let tail := lateReply.bytes.take 5
    let r := empty.feed (Bytes.pieces 1 (stream requestThenReply ++ tail))
    r.bodies = [Utf8.encode "0 Gversion ", Utf8.encode "  5 "] ∧ r.fault = none ∧
      r.decoder.unread = Utf8.encode "7 1 " ∧ r.decoder.expected = some 7 := by
  intro tail r
  have hCut : CutShort requestThenReply lateReply tail :=
    ⟨by decide +kernel, by decide +kernel, List.take_prefix .., by decide +kernel⟩
  obtain ⟨hBodies, hFault, hKeeps⟩ := feed_stream requestThenReply lateReply tail
    (Bytes.pieces 1 (stream requestThenReply ++ tail)) (Bytes.flatten_pieces ..) hCut
  refine ⟨hBodies.trans (by decide +kernel), hFault, hKeeps.unread.trans (by decide +kernel), ?_⟩
  exact hKeeps.expected.trans (by decide +kernel)

end Frame.Decoder

end DocWire

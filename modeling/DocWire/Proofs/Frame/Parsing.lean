import DocWire.Frame.Request
import DocWire.Proofs.Decimal.Text

/-! The two spaces in front of a request's payload are the first ones of its body, since there is
none in the number or in the target. So the payload may hold anything. -/

namespace DocWire

namespace Method

theorem ofCode?_code (m : Method) : ofCode? m.code = some m := by
  cases m <;> rfl

/-- A letter from which a method is read is the letter of that method. -/
theorem code_of_ofCode? {code : UInt8} {m : Method} (h : ofCode? code = some m) :
    m.code = code := by
  simpa using List.find?_some h

end Method

namespace Utf8

theorem space_notMem_encode {s : String} (h : ' ' ∉ s.toList) : Bytes.space ∉ encode s := by
  intro hMem
  exact h (mem_of_mem_encode hMem (by decide) rfl)

theorem space_notMem_encode_iff {s : String} : Bytes.space ∉ encode s ↔ ' ' ∉ s.toList := by
  refine ⟨fun h hMem => h ?_, space_notMem_encode⟩
  exact List.mem_flatMap.2 ⟨' ', hMem, List.mem_singleton_self _⟩

end Utf8

namespace Request

variable {r r' : Request} {s : Bytes}

/-- A request of which a server can find every part again. -/
structure Readable (r : Request) : Prop where
  id : Bytes.space ∉ Utf8.encode r.id
  target : Bytes.space ∉ Utf8.encode r.target
  size : r.body.length ≤ Frame.maxSize

/-- These bytes spell the request: its number, a space, the letter of its method and the target
right behind it, another space, and the payload. No other space stands in front of the payload. -/
structure Spells (s : Bytes) (r : Request) : Prop where
  bytes : s = Utf8.encode r.id ++ Bytes.space :: r.method.code :: (Utf8.encode r.target ++
    Bytes.space :: r.payload)
  id : ' ' ∉ r.id.toList
  target : ' ' ∉ r.target.toList

theorem body_eq (r : Request) : r.body = Utf8.encode r.id ++ Bytes.space :: r.method.code ::
    (Utf8.encode r.target ++ Bytes.space :: r.payload) := by
  simp [body]

theorem Spells.parse? (h : Spells s r) : parse? s = some r := by
  have hSecond : Bytes.splitAtSpace? (Utf8.encode r.target ++ Bytes.space :: r.payload) =
      some (Utf8.encode r.target, r.payload) :=
    Bytes.splitAtSpace?_append (Utf8.space_notMem_encode h.target)
  have hFirst : s.splitAtSpace? = some (Utf8.encode r.id,
      r.method.code :: (Utf8.encode r.target ++ Bytes.space :: r.payload)) := by
    rw [h.bytes]
    exact Bytes.splitAtSpace?_append (Utf8.space_notMem_encode h.id)
  rw [Request.parse?, hFirst]
  simp only [Option.bind_eq_bind, Option.bind_some, List.head?_cons, List.tail_cons, hSecond,
    Utf8.decode?_encode, Except.toOption, Method.ofCode?_code]
  rfl

/-- A request whose number and target hold no space is read back from its body. -/
theorem parse?_body (h : r.Readable) : parse? r.body = some r :=
  Spells.parse? ⟨r.body_eq, Utf8.space_notMem_encode_iff.1 h.id,
    Utf8.space_notMem_encode_iff.1 h.target⟩

/-- What is read as a request spells it. -/
theorem spells_of_parse? (h : parse? s = some r) : Spells s r := by
  simp only [parse?, Option.bind_eq_bind, Option.bind_eq_some_iff] at h
  obtain ⟨⟨id, rest⟩, hFirst, code, hCode, ⟨target, payload⟩, hSecond, h⟩ := h
  obtain ⟨idText, hId, method, hMethod, targetText, hTarget, h⟩ := h
  obtain ⟨rest, rfl⟩ := List.head?_eq_some_iff.1 hCode
  obtain ⟨rfl, hFree⟩ := Bytes.splitAtSpace?_eq_some_iff.1 hFirst
  obtain ⟨hRest, hFree'⟩ := Bytes.splitAtSpace?_eq_some_iff.1 hSecond
  obtain rfl : Utf8.encode idText = id := Utf8.encode_of_decode? hId
  obtain rfl : Utf8.encode targetText = target := Utf8.encode_of_decode? hTarget
  cases h
  refine ⟨?_, Utf8.space_notMem_encode_iff.1 hFree, Utf8.space_notMem_encode_iff.1 hFree'⟩
  rw [Method.code_of_ofCode? hMethod, ← hRest, List.tail_cons]

theorem parse?_eq_some_iff : parse? s = some r ↔ Spells s r :=
  ⟨spells_of_parse?, Spells.parse?⟩

/-- The server reads exactly the bytes that spell a request, and no bytes spell two requests. So the
frame of a request whose number and target hold no space is the count of its body, a space and that
body, of which the server reads all four parts again; and whatever it reads as a request is the body
that this request is written with. -/
theorem parse?_reads_what_is_spelled :
    (∀ s r, parse? s = some r ↔ Spells s r) ∧
    (∀ s r r', Spells s r → Spells s r' → r = r') ∧
    (∀ id method target payload, ' ' ∉ id.toList → ' ' ∉ target.toList →
      let r : Request := ⟨id, method, target, payload⟩
      r.encode = Utf8.encode (Decimal.text r.body.length) ++ Bytes.space :: r.body ∧
        parse? r.body = some r) ∧
    ∀ s r, parse? s = some r → r.body = s := by
  refine ⟨fun s r => parse?_eq_some_iff, ?_, ?_, ?_⟩
  · intro s r r' h h'
    exact Option.some.inj (h.parse?.symm.trans h'.parse?)
  · intro id method target payload hId hTarget r
    exact ⟨rfl, Spells.parse? ⟨r.body_eq, hId, hTarget⟩⟩
  · intro s r h
    exact r.body_eq.trans (spells_of_parse? h).bytes.symm

/-- Neither a number nor a target, and a payload that begins and ends with a space and is no
text. -/
theorem parse?_reads_what_is_spelled_blank :
    let r : Request := ⟨"", .delete, "", [0x20, 0xFF, 0x20]⟩
    (' ' ∉ r.id.toList ∧ ' ' ∉ r.target.toList) ∧
      r.encode = [0x36, 0x20, 0x20, 0x44, 0x20, 0x20, 0xFF, 0x20] ∧
      parse? [0x20, 0x44, 0x20, 0x20, 0xFF, 0x20] = some r ∧
      ∀ r', Spells [0x20, 0x44, 0x20, 0x20, 0xFF, 0x20] r' → r' = r := by
  intro r
  have hFree : ' ' ∉ r.id.toList ∧ ' ' ∉ r.target.toList := by decide
  obtain ⟨hReads, hUnique, hFrames, -⟩ := parse?_reads_what_is_spelled
  obtain ⟨hFrame, hParsed⟩ := hFrames r.id r.method r.target r.payload hFree.1 hFree.2
  exact ⟨hFree, hFrame.trans (by decide +kernel), hParsed,
    fun r' h => hUnique _ r' r h ((hReads _ r).1 hParsed)⟩

end Request

end DocWire

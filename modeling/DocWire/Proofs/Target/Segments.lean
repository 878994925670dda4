import DocWire.Proofs.Target

/-! Escaping loses nothing: the text of a path tells its segments, and a segment tells the
characters that are kept of its component. What is lost is lost by the dropping before. -/

namespace DocWire.Target

/-- Images that can be told apart in front of anything can be told apart in a row. -/
theorem flatMap_inj {α β : Type} {f : α → List β} (hNe : ∀ a, f a ≠ [])
    (hFree : ∀ {a b : α} {s t : List β}, f a ++ s = f b ++ t → a = b ∧ s = t) {s t : List α} :
    s.flatMap f = t.flatMap f ↔ s = t := by
  refine ⟨fun h => ?_, congrArg _⟩
  induction s generalizing t with
  | nil =>
      cases t with
      | nil => rfl
      | cons b t => exact absurd (List.append_eq_nil_iff.1 h.symm).1 (hNe b)
  | cons a s ih =>
      cases t with
      | nil => exact absurd (List.append_eq_nil_iff.1 h).1 (hNe a)
      | cons b t =>
          rw [List.flatMap_cons, List.flatMap_cons] at h
          obtain ⟨rfl, hRest⟩ := hFree h
          rw [ih hRest]

theorem hexDigit_inj {d e : Nat} (hd : d < 16) (he : e < 16) (h : hexDigit d = hexDigit e) :
    d = e := by
  have hAll : ∀ d < 16, ∀ e < 16, hexDigit d = hexDigit e → d = e := by decide
  exact hAll d hd e he h

theorem ofNat_ne_percent {b : UInt8} (h : isLiteral b = true) : Char.ofNat b.toNat ≠ '%' := by
  intro hPercent
  obtain ⟨-, hHigh, -⟩ := toNat_of_isLiteral h
  have hCode := Utf8.toNat_ofNat (Or.inl (show b.toNat < 0xD800 by omega))
  rw [hPercent] at hCode
  obtain rfl : b = 0x25 := UInt8.toNat_inj.1 hCode.symm
  exact absurd h (by decide)

/-- The escaped byte in front of a text can be told. -/
theorem escapeByte_append_inj {a b : UInt8} {s t : List Char}
    (h : escapeByte a ++ s = escapeByte b ++ t) : a = b ∧ s = t := by
  have hByte (c : UInt8) := c.toNat_lt
  unfold escapeByte at h
  split at h
  next ha =>
    split at h
    next hb =>
      obtain ⟨hChar, hRest⟩ := List.cons.inj h
      obtain ⟨-, hHigh, -⟩ := toNat_of_isLiteral ha
      obtain ⟨-, hHigh', -⟩ := toNat_of_isLiteral hb
      have hCode := congrArg Char.toNat hChar
      rw [Utf8.toNat_ofNat (by omega), Utf8.toNat_ofNat (by omega)] at hCode
      exact ⟨UInt8.toNat_inj.1 hCode, hRest⟩
    next hb => exact absurd (List.cons.inj h).1 (ofNat_ne_percent ha)
  next ha =>
    split at h
    next hb => exact absurd (List.cons.inj h).1.symm (ofNat_ne_percent hb)
    next hb =>
      simp only [List.cons_append, List.nil_append, List.cons.injEq, true_and] at h
      obtain ⟨hHigh, hLow, hRest⟩ := h
      have hHigh' := hexDigit_inj (by have := hByte a; omega) (by have := hByte b; omega) hHigh
      have hLow' := hexDigit_inj (Nat.mod_lt _ (by decide)) (Nat.mod_lt _ (by decide)) hLow
      exact ⟨UInt8.toNat_inj.1 (by omega), hRest⟩

theorem escapeByte_ne_nil (b : UInt8) : escapeByte b ≠ [] := by
  unfold escapeByte
  split <;> exact List.cons_ne_nil _ _

/-- What a component contributes to a target: its characters without tabs and line breaks. A single
dot contributes nothing. -/
def kept (component : String) : List Char :=
  if component.toList.filter (!isDropped ·) = ['.'] then []
  else component.toList.filter (!isDropped ·)

theorem climbs_iff_kept {component : String} : Climbs component ↔ kept component = ['.', '.'] := by
  unfold Climbs kept
  split
  next hDot => simp [hDot]
  next hDot => exact Iff.rfl

/-- A segment is what is kept, escaped. -/
theorem segment_eq (component : String) :
    segment component =
      String.ofList (((kept component).flatMap Utf8.encodeChar).flatMap escapeByte) := by
  have hDot : escape component = "." ↔ component.toList.filter (!isDropped ·) = ['.'] := by
    rw [← String.toList_inj]
    exact toList_escape_eq_replicate_iff (n := 1)
  unfold segment kept
  by_cases h : component.toList.filter (!isDropped ·) = ['.']
  · rw [if_pos (hDot.2 h), if_pos h]
    rfl
  · rw [if_neg (mt hDot.1 h), if_neg h, escape]

/-- Two segments are the same exactly if the same is kept of their components. -/
theorem segment_inj {a b : String} : segment a = segment b ↔ kept a = kept b := by
  rw [segment_eq, segment_eq, String.ofList_inj,
    flatMap_inj escapeByte_ne_nil escapeByte_append_inj]
  refine ⟨fun h => ?_, congrArg _⟩
  rw [← Utf8.charsLossy_flatMap_encodeChar (kept a), h, Utf8.charsLossy_flatMap_encodeChar]

variable {path path' : List String}

/-- The segments are read back from the text of a path, since no slash is in them. -/
theorem splitOn_intercalate (hPath : path ≠ []) (h : ∀ s ∈ path, '/' ∉ s.toList) :
    ("/".intercalate path).toList.splitOn '/' = path.map String.toList := by
  rw [String.toList_intercalate]
  apply List.splitOn_intercalate
  · intro s hs
    obtain ⟨segment, hSegment, rfl⟩ := List.mem_map.1 hs
    exact h segment hSegment
  · exact mt List.map_eq_nil_iff.1 hPath

theorem intercalate_inj (hPath : path ≠ []) (hPath' : path' ≠ [])
    (h : ∀ s ∈ path, '/' ∉ s.toList) (h' : ∀ s ∈ path', '/' ∉ s.toList) :
    "/".intercalate path = "/".intercalate path' ↔ path = path' := by
  refine ⟨fun hText => ?_, congrArg _⟩
  apply (List.map_inj_right fun _ _ => String.toList_inj.1).1
  rw [← splitOn_intercalate hPath h, hText, splitOn_intercalate hPath' h']

end DocWire.Target

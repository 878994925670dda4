import DocWire.Text.Utf8

/-! The bytes of a character are scanned as that character, whatever follows them. Bytes in whose
place no replacement is read are the bytes of the text that is read. -/

namespace DocWire.Utf8

theorem toNat_toUInt8 {x : Nat} (h : x < 0x100) : x.toUInt8.toNat = x := by
  rw [Nat.toUInt8_eq, UInt8.toNat_ofNat']
  omega

/-- The codes of characters leave the surrogates out. -/
theorem toNat_valid (c : Char) : c.toNat < 0xD800 ∨ 0xDFFF < c.toNat ∧ c.toNat < 0x110000 :=
  c.valid

theorem scanTail_cons {missing low high seen bits x : Nat} {s : List UInt8} (hLow : low ≤ x)
    (hHigh : x ≤ high) (hByte : high < 0x100) :
    scanTail (missing + 1) low high seen bits (x.toUInt8 :: s) =
      scanTail missing 0x80 0xBF (seen + 1) (bits * 0x40 + (x - 0x80)) s := by
  rw [scanTail, toNat_toUInt8 (by omega), if_pos ⟨hLow, hHigh⟩]

theorem scan_lead {x extra low high bits : Nat} {s : List UInt8} (hAscii : 0x80 ≤ x)
    (hByte : x < 0x100) (h : lead? x = some ⟨extra, low, high, bits⟩) :
    scan x.toUInt8 s = scanTail extra low high 0 bits s := by
  simp only [scan, toNat_toUInt8 hByte, h, Nat.not_lt.2 hAscii, if_false]

theorem lead?_two {n : Nat} (hMin : 0x80 ≤ n) (hMax : n < 0x800) :
    lead? (0xC0 + n / 0x40) = some ⟨1, 0x80, 0xBF, n / 0x40⟩ := by
  rw [lead?, if_neg (by omega), if_pos (by omega), Nat.add_sub_cancel_left]

/-- The narrowed range lets the second byte through, since `n` is no surrogate. -/
theorem exists_lead?_three {n : Nat} (hMin : 0x800 ≤ n) (hMax : n < 0x10000)
    (hValid : n < 0xD800 ∨ 0xDFFF < n) :
    ∃ low high, lead? (0xE0 + n / 0x1000) = some ⟨2, low, high, n / 0x1000⟩ ∧
      low ≤ 0x80 + n / 0x40 % 0x40 ∧ 0x80 + n / 0x40 % 0x40 ≤ high ∧ high < 0x100 := by
  refine ⟨if 0xE0 + n / 0x1000 = 0xE0 then 0xA0 else 0x80,
    if 0xE0 + n / 0x1000 = 0xED then 0x9F else 0xBF, ?_, ?_, ?_, ?_⟩
  · rw [lead?, if_neg (by omega), if_neg (by omega), if_pos (by omega), Nat.add_sub_cancel_left]
  all_goals split <;> omega

/-- The narrowed range lets the second byte through, since `n` is not too large. -/
theorem exists_lead?_four {n : Nat} (hMin : 0x10000 ≤ n) (hMax : n < 0x110000) :
    ∃ low high, lead? (0xF0 + n / 0x40000) = some ⟨3, low, high, n / 0x40000⟩ ∧
      low ≤ 0x80 + n / 0x1000 % 0x40 ∧ 0x80 + n / 0x1000 % 0x40 ≤ high ∧ high < 0x100 := by
  refine ⟨if 0xF0 + n / 0x40000 = 0xF0 then 0x90 else 0x80,
    if 0xF0 + n / 0x40000 = 0xF4 then 0x8F else 0xBF, ?_, ?_, ?_, ?_⟩
  · rw [lead?, if_neg (by omega), if_neg (by omega), if_neg (by omega), if_pos (by omega),
      Nat.add_sub_cancel_left]
  all_goals split <;> omega

/-- The bytes of a character are scanned as that character. -/
theorem scan_encodeChar (c : Char) (s : List UInt8) :
    ∃ b bs, encodeChar c = b :: bs ∧ scan b (bs ++ s) = .char c bs.length := by
  have hValid := toNat_valid c
  have hChar : Char.ofNat c.toNat = c := Char.ofNat_toNat c
  unfold encodeChar
  generalize c.toNat = n at *
  dsimp only
  split
  next hOne =>
    refine ⟨_, _, rfl, ?_⟩
    rw [scan, toNat_toUInt8 (by omega), if_pos hOne, hChar]
    rfl
  next hOne =>
    split
    next hTwo =>
      refine ⟨_, _, rfl, ?_⟩
      have hLead := lead?_two (by omega) hTwo
      have hBits : n / 0x40 * 0x40 + (0x80 + n % 0x40 - 0x80) = n := by omega
      rw [scan_lead (by omega) (by omega) hLead, List.cons_append,
        scanTail_cons (by omega) (by omega) (by omega), scanTail, hBits, hChar]
      rfl
    next hTwo =>
      split
      next hThree =>
        refine ⟨_, _, rfl, ?_⟩
        obtain ⟨low, high, hLead, hLow, hHigh, hByte⟩ :=
          exists_lead?_three (by omega) hThree (by omega)
        have hBits : (n / 0x1000 * 0x40 + (0x80 + n / 0x40 % 0x40 - 0x80)) * 0x40 +
            (0x80 + n % 0x40 - 0x80) = n := by omega
        rw [scan_lead (by omega) (by omega) hLead, List.cons_append, List.cons_append,
          scanTail_cons hLow hHigh hByte, scanTail_cons (by omega) (by omega) (by omega), scanTail,
          hBits, hChar]
        rfl
      next hThree =>
        refine ⟨_, _, rfl, ?_⟩
        obtain ⟨low, high, hLead, hLow, hHigh, hByte⟩ :=
          exists_lead?_four (n := n) (by omega) (by omega)
        have hBits : ((n / 0x40000 * 0x40 + (0x80 + n / 0x1000 % 0x40 - 0x80)) * 0x40 +
            (0x80 + n / 0x40 % 0x40 - 0x80)) * 0x40 + (0x80 + n % 0x40 - 0x80) = n := by omega
        rw [scan_lead (by omega) (by omega) hLead, List.cons_append, List.cons_append,
          List.cons_append, scanTail_cons hLow hHigh hByte,
          scanTail_cons (by omega) (by omega) (by omega),
          scanTail_cons (by omega) (by omega) (by omega), scanTail, hBits, hChar]
        rfl

theorem charsLossy_flatMap_encodeChar (cs : List Char) :
    charsLossy (cs.flatMap encodeChar) = cs := by
  induction cs with
  | nil => simp [charsLossy]
  | cons c cs ih =>
      obtain ⟨b, bs, hBytes, hScan⟩ := scan_encodeChar c (cs.flatMap encodeChar)
      rw [List.flatMap_cons, hBytes, List.cons_append, charsLossy, hScan]
      simp only [List.drop_left, ih]

theorem decodeLossy_encode (s : String) : decodeLossy (encode s) = s := by
  rw [decodeLossy, encode, charsLossy_flatMap_encodeChar, String.ofList_toList]

theorem decodeFrom_flatMap_encodeChar (index : Nat) (cs : List Char) :
    decodeFrom index (cs.flatMap encodeChar) = .ok cs := by
  induction cs generalizing index with
  | nil => simp [decodeFrom]
  | cons c cs ih =>
      obtain ⟨b, bs, hBytes, hScan⟩ := scan_encodeChar c (cs.flatMap encodeChar)
      rw [List.flatMap_cons, hBytes, List.cons_append, decodeFrom, hScan]
      simp only [List.drop_left, ih]
      rfl

theorem decode?_encode (s : String) : decode? (encode s) = .ok s := by
  rw [decode?, encode, decodeFrom_flatMap_encodeChar]
  exact congrArg Except.ok String.ofList_toList

theorem encode_injective {s t : String} (h : encode s = encode t) : s = t := by
  rw [← decodeLossy_encode s, ← decodeLossy_encode t, h]

theorem toUInt8_eq {n : Nat} {b : UInt8} (h : n = b.toNat) : n.toUInt8 = b := by
  rw [h, Nat.toUInt8_eq, UInt8.ofNat_toNat]

theorem toNat_ofNat {n : Nat} (h : n < 0xD800 ∨ 0xDFFF < n ∧ n < 0x110000) :
    (Char.ofNat n).toNat = n := by
  have hValid : n.isValidChar := h
  rw [Char.ofNat, dif_pos hValid]
  rfl

/-- A continuation byte that is scanned lies in the range and gives its bits. -/
theorem exists_of_scanTail {missing low high seen bits extra : Nat} {c : Char} {s : List UInt8}
    (h : scanTail (missing + 1) low high seen bits s = .char c extra) :
    ∃ x rest, s = x :: rest ∧ low ≤ x.toNat ∧ x.toNat ≤ high ∧
      scanTail missing 0x80 0xBF (seen + 1) (bits * 0x40 + (x.toNat - 0x80)) rest =
        .char c extra := by
  cases s with
  | nil => cases h
  | cons x rest =>
      rw [scanTail] at h
      split at h
      next hRange => exact ⟨x, rest, rfl, hRange.1, hRange.2, h⟩
      · cases h

theorem toNat_of_scanTail {low high seen bits extra : Nat} {c : Char} {s : List UInt8}
    (h : scanTail 0 low high seen bits s = .char c extra)
    (hValid : bits < 0xD800 ∨ 0xDFFF < bits ∧ bits < 0x110000) :
    c.toNat = bits ∧ extra = seen := by
  rw [scanTail] at h
  injection h with hChar hExtra
  exact ⟨hChar ▸ toNat_ofNat hValid, hExtra.symm⟩

theorem lead?_eq_some {n : Nat} {l : Lead} (h : lead? n = some l) :
    (0xC2 ≤ n ∧ n < 0xE0 ∧ l = ⟨1, 0x80, 0xBF, n - 0xC0⟩) ∨
    (0xE0 ≤ n ∧ n < 0xF0 ∧ ∃ low high, l = ⟨2, low, high, n - 0xE0⟩ ∧ 0x80 ≤ low ∧ high ≤ 0xBF ∧
      (n = 0xE0 → low = 0xA0) ∧ (n = 0xED → high = 0x9F)) ∨
    (0xF0 ≤ n ∧ n < 0xF5 ∧ ∃ low high, l = ⟨3, low, high, n - 0xF0⟩ ∧ 0x80 ≤ low ∧ high ≤ 0xBF ∧
      (n = 0xF0 → low = 0x90) ∧ (n = 0xF4 → high = 0x8F)) := by
  unfold lead? at h
  split at h
  · cases h
  · split at h
    · exact Or.inl ⟨by omega, by assumption, (Option.some.inj h).symm⟩
    · split at h
      · refine Or.inr (Or.inl ⟨by omega, by assumption, _, _, (Option.some.inj h).symm, ?_⟩)
        split <;> split <;> omega
      · split at h
        · refine Or.inr (Or.inr ⟨by omega, by assumption, _, _, (Option.some.inj h).symm, ?_⟩)
          split <;> split <;> omega
        · cases h

/-- The bytes that are scanned as a character are the bytes of that character. The narrowed ranges
leave no other way to write it. -/
theorem encodeChar_of_scan {b : UInt8} {s : List UInt8} {c : Char} {extra : Nat}
    (h : scan b s = .char c extra) : encodeChar c = b :: s.take extra := by
  unfold scan at h
  split at h
  next hAscii =>
    injection h with hChar hExtra
    have hCode : c.toNat = b.toNat := hChar ▸ toNat_ofNat (Or.inl (by omega))
    simp only [encodeChar, hCode, hAscii, if_true, ← hExtra, List.take_zero, toUInt8_eq rfl]
  next hAscii =>
    split at h
    · cases h
    next l hLead =>
      have hByte := b.toNat_lt
      rcases lead?_eq_some hLead with ⟨hMin, hMax, rfl⟩ | ⟨hMin, hMax, low, high, rfl, hRange⟩ |
        ⟨hMin, hMax, low, high, rfl, hRange⟩
      · obtain ⟨x, rest, rfl, hLow, hHigh, h⟩ := exists_of_scanTail h
        dsimp only at hLow hHigh h
        obtain ⟨hCode, rfl⟩ := toNat_of_scanTail h (by omega)
        simp only [encodeChar, hCode]
        rw [if_neg (by omega), if_pos (by omega), toUInt8_eq (by omega : _ = b.toNat),
          toUInt8_eq (by omega : _ = x.toNat)]
        rfl
      · obtain ⟨x, rest, rfl, hLow, hHigh, h⟩ := exists_of_scanTail h
        obtain ⟨y, rest, rfl, hLow', hHigh', h⟩ := exists_of_scanTail h
        dsimp only at hLow hHigh h
        obtain ⟨hCode, rfl⟩ := toNat_of_scanTail h (by omega)
        simp only [encodeChar, hCode]
        rw [if_neg (by omega), if_neg (by omega), if_pos (by omega),
          toUInt8_eq (by omega : _ = b.toNat), toUInt8_eq (by omega : _ = x.toNat),
          toUInt8_eq (by omega : _ = y.toNat)]
        rfl
      · obtain ⟨x, rest, rfl, hLow, hHigh, h⟩ := exists_of_scanTail h
        obtain ⟨y, rest, rfl, hLow', hHigh', h⟩ := exists_of_scanTail h
        obtain ⟨z, rest, rfl, hLow'', hHigh'', h⟩ := exists_of_scanTail h
        dsimp only at hLow hHigh h
        obtain ⟨hCode, rfl⟩ := toNat_of_scanTail h (by omega)
        simp only [encodeChar, hCode]
        rw [if_neg (by omega), if_neg (by omega), if_neg (by omega),
          toUInt8_eq (by omega : _ = b.toNat), toUInt8_eq (by omega : _ = x.toNat),
          toUInt8_eq (by omega : _ = y.toNat), toUInt8_eq (by omega : _ = z.toNat)]
        rfl

/-- What is read without a replacement is read back. -/
theorem flatMap_encodeChar_charsLossy {s : List UInt8} (h : replacement ∉ charsLossy s) :
    (charsLossy s).flatMap encodeChar = s := by
  fun_induction charsLossy s with
  | case1 => rfl
  | case2 b s c extra hScan ih =>
      rw [List.flatMap_cons, encodeChar_of_scan hScan, ih fun hMem => h (.tail _ hMem),
        List.cons_append, List.take_append_drop]
  | case3 b s extra hScan ih => exact absurd (.head _) h
  | case4 b s hScan => exact absurd (.head _) h

theorem encode_decodeLossy {s : List UInt8} (h : replacement ∉ (decodeLossy s).toList) :
    encode (decodeLossy s) = s := by
  rw [decodeLossy, String.toList_ofList] at h
  rw [encode, decodeLossy, String.toList_ofList]
  exact flatMap_encodeChar_charsLossy h

/-- Bytes that are read as characters are the bytes of those. -/
theorem flatMap_encodeChar_of_decodeFrom {index : Nat} {s : List UInt8} {cs : List Char}
    (h : decodeFrom index s = .ok cs) : cs.flatMap encodeChar = s := by
  fun_induction decodeFrom index s generalizing cs with
  | case1 index =>
      rw [← Except.ok.inj h]
      rfl
  | case2 index b s c extra hScan ih =>
      cases hRest : decodeFrom (index + extra + 1) (s.drop extra) with
      | error fault =>
          rw [hRest] at h
          cases h
      | ok rest =>
          rw [hRest] at h
          rw [← Except.ok.inj h, List.flatMap_cons, encodeChar_of_scan hScan, ih hRest,
            List.cons_append, List.take_append_drop]
  | case3 | case4 => cases h

/-- A text is read from its own bytes only. -/
theorem encode_of_decode? {s : List UInt8} {t : String} (h : (decode? s).toOption = some t) :
    encode t = s := by
  rw [decode?] at h
  cases hChars : decodeFrom 0 s with
  | error fault =>
      rw [hChars] at h
      cases h
  | ok cs =>
      rw [hChars] at h
      rw [← Option.some.inj h, encode, String.toList_ofList]
      exact flatMap_encodeChar_of_decodeFrom hChars

/-- The bytes of a character above ASCII are above ASCII. -/
theorem toNat_of_mem_encodeChar {c : Char} {b : UInt8} (h : b ∈ encodeChar c)
    (hAscii : b.toNat < 0x80) : c.toNat = b.toNat := by
  have hValid := toNat_valid c
  unfold encodeChar at h
  generalize c.toNat = n at *
  dsimp only at h
  split at h
  next hOne =>
    rw [List.mem_singleton.1 h, toNat_toUInt8 (by omega)]
  next hOne =>
    exfalso
    have hAbove {x : Nat} (hb : b = x.toUInt8) (hLow : 0x80 ≤ x) (hByte : x < 0x100) : False := by
      rw [hb, toNat_toUInt8 hByte] at hAscii
      omega
    split at h
    · simp only [List.mem_cons, List.not_mem_nil, or_false] at h
      rcases h with h | h <;> exact hAbove h (by omega) (by omega)
    · split at h
      · simp only [List.mem_cons, List.not_mem_nil, or_false] at h
        rcases h with h | h | h <;> exact hAbove h (by omega) (by omega)
      · simp only [List.mem_cons, List.not_mem_nil, or_false] at h
        rcases h with h | h | h | h <;> exact hAbove h (by omega) (by omega)

theorem mem_of_mem_encode {s : String} {c : Char} {b : UInt8} (h : b ∈ encode s)
    (hAscii : b.toNat < 0x80) (hc : c.toNat = b.toNat) : c ∈ s.toList := by
  obtain ⟨d, hd, hb⟩ := List.mem_flatMap.1 h
  have hSame : d.toNat = c.toNat := (toNat_of_mem_encodeChar hb hAscii).trans hc.symm
  rwa [← Char.toNat_inj.1 hSame]

end DocWire.Utf8

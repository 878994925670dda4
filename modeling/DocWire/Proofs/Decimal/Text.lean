import DocWire.Bytes
import DocWire.Proofs.Text.Utf8

/-! Different numbers are written differently, a larger number has at least as many digits, and of
two numbers with equally many digits the smaller one has the smaller text. -/

namespace DocWire.Decimal

theorem digitChar_toNat {d : Nat} (h : d < 10) : (digitChar d).toNat = 0x30 + d := by
  match d, h with
  | 0, _ | 1, _ | 2, _ | 3, _ | 4, _ | 5, _ | 6, _ | 7, _ | 8, _ | 9, _ => rfl

/-- Every digit is one of the ten digit characters. -/
theorem exists_digitChar_of_mem {n : Nat} {c : Char} (h : c ∈ digits n) :
    ∃ d, d < 10 ∧ c = digitChar d := by
  fun_induction digits n with
  | case1 n hn => exact ⟨n, hn, by simpa using h⟩
  | case2 n hn ih =>
      rcases List.mem_append.1 h with h | h
      · exact ih h
      · exact ⟨n % 10, Nat.mod_lt _ (by decide), by simpa using h⟩

theorem digits_ne_nil (n : Nat) : digits n ≠ [] := by
  fun_induction digits n <;> simp

@[simp] theorem text_toList (n : Nat) : (text n).toList = digits n := String.toList_ofList

/-- Different numbers are written differently. -/
theorem text_injective {m n : Nat} (h : text m = text n) : m = n := by
  have hDigits : digits m = digits n := by
    rw [← text_toList, ← text_toList, h]
  have hm := readDigits_digits (Nat.le_max_left m n)
  have hn := readDigits_digits (Nat.le_max_right m n)
  rw [hDigits, hn] at hm
  exact (Except.ok.inj hm).symm

theorem text_inj {m n : Nat} : text m = text n ↔ m = n :=
  ⟨text_injective, congrArg text⟩

theorem length_digits_le {m n : Nat} (h : m ≤ n) : (digits m).length ≤ (digits n).length := by
  induction n using Nat.strongRecOn generalizing m with
  | ind n ih =>
      rw [digits.eq_def m, digits.eq_def n]
      by_cases hn : n < 10
      · have hm : m < 10 := by omega
        simp [hn, hm]
      · by_cases hm : m < 10
        · simp [hn, hm]
        · simpa [hn, hm] using @ih (n / 10) (by omega) (m / 10) (by omega)

/-- Of two lists of equal length the first elements in which they differ decide. -/
theorem append_singleton_lt_iff {a b : List Char} (h : a.length = b.length) (x y : Char) :
    a ++ [x] < b ++ [y] ↔ a < b ∨ a = b ∧ x < y := by
  induction a generalizing b with
  | nil =>
      obtain rfl : b = [] := List.eq_nil_of_length_eq_zero h.symm
      simp [List.cons_lt_cons_iff]
  | cons c a ih =>
      cases b with
      | nil => cases h
      | cons d b =>
          have hLength : a.length = b.length := by simpa using h
          simp only [List.cons_append, List.cons_lt_cons_iff, ih hLength, List.cons.injEq]
          constructor
          · rintro (hcd | ⟨hcd, hab | ⟨hab, hxy⟩⟩)
            · exact Or.inl (Or.inl hcd)
            · exact Or.inl (Or.inr ⟨hcd, hab⟩)
            · exact Or.inr ⟨⟨hcd, hab⟩, hxy⟩
          · rintro ((hcd | ⟨hcd, hab⟩) | ⟨⟨hcd, hab⟩, hxy⟩)
            · exact Or.inl hcd
            · exact Or.inr ⟨hcd, Or.inl hab⟩
            · exact Or.inr ⟨hcd, Or.inr ⟨hab, hxy⟩⟩

theorem digitChar_lt_iff {d e : Nat} (hd : d < 10) (he : e < 10) :
    digitChar d < digitChar e ↔ d < e := by
  rw [Char.lt_def, UInt32.lt_iff_toNat_lt]
  have hd' := digitChar_toNat hd
  have he' := digitChar_toNat he
  simp only [Char.toNat] at hd' he'
  omega

/-- Numbers with equally many digits are in the order of their digits. -/
theorem digits_lt_iff {m n : Nat} (h : (digits m).length = (digits n).length) :
    digits m < digits n ↔ m < n := by
  induction n using Nat.strongRecOn generalizing m with
  | ind n ih =>
      rw [digits.eq_def m, digits.eq_def n] at h ⊢
      by_cases hn : n < 10 <;> by_cases hm : m < 10
      · simp [hn, hm, List.cons_lt_cons_iff, digitChar_lt_iff]
      · simp [hn, hm, digits_ne_nil] at h
      · simp [hn, hm, digits_ne_nil] at h
      · simp only [hn, hm, if_false] at h ⊢
        have hLength : (digits (m / 10)).length = (digits (n / 10)).length := by simpa using h
        have hMod (k : Nat) : k % 10 < 10 := Nat.mod_lt _ (by decide)
        have hSame : digits (m / 10) = digits (n / 10) ↔ m / 10 = n / 10 := by
          rw [← text_inj, text, text, String.ofList_inj]
        rw [append_singleton_lt_iff hLength, ih (n / 10) (by omega) hLength, hSame,
          digitChar_lt_iff (hMod m) (hMod n)]
        omega

/-- A written number as bytes: one for each digit. -/
theorem encode_text (n : Nat) :
    Utf8.encode (text n) = (digits n).map fun c => c.toNat.toUInt8 := by
  have hChar (c : Char) (hc : c ∈ digits n) : Utf8.encodeChar c = [c.toNat.toUInt8] := by
    obtain ⟨d, hd, rfl⟩ := exists_digitChar_of_mem hc
    have hAscii : (digitChar d).toNat < 0x80 := by rw [digitChar_toNat hd]; omega
    simp [Utf8.encodeChar, hAscii]
  rw [Utf8.encode, text_toList]
  generalize digits n = cs at hChar
  induction cs with
  | nil => rfl
  | cons c cs ih =>
      rw [List.flatMap_cons, hChar c (by simp), ih fun c hc => hChar c (List.mem_cons_of_mem _ hc)]
      rfl

theorem space_notMem_encode_text (n : Nat) : Bytes.space ∉ Utf8.encode (text n) := by
  rw [encode_text]
  intro h
  obtain ⟨c, hc, hSpace⟩ := List.mem_map.1 h
  obtain ⟨d, hd, rfl⟩ := exists_digitChar_of_mem hc
  rw [digitChar_toNat hd] at hSpace
  have hNat := congrArg UInt8.toNat hSpace
  simp [Bytes.space] at hNat
  omega

theorem encode_text_ne_nil (n : Nat) : Utf8.encode (text n) ≠ [] := by
  rw [encode_text]
  simpa using digits_ne_nil n

/-- No other bytes are read as a number's text, not even tolerantly. -/
theorem encode_text_of_decodeLossy {s : Bytes} {n : Nat} (h : Utf8.decodeLossy s = text n) :
    Utf8.encode (text n) = s := by
  rw [← h]
  apply Utf8.encode_decodeLossy
  rw [h, text_toList]
  intro hMem
  obtain ⟨d, hd, hChar⟩ := exists_digitChar_of_mem hMem
  have hCode := digitChar_toNat hd
  rw [← hChar] at hCode
  have hFar : Utf8.replacement.toNat = 0xFFFD := by decide
  omega

end DocWire.Decimal

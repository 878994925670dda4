import DocWire.Decimal

/-! A text is read as a number exactly if it is made of digits, perhaps with one plus sign in front,
and what they spell has no more than 64 bits. -/

namespace DocWire.Decimal

/-- The number that digits, given by their codes, spell behind the number `n`. -/
def continued (n : Nat) (codes : List Nat) : Nat :=
  codes.foldl (fun n code => n * 10 + (code - 0x30)) n

theorem le_continued (n : Nat) (codes : List Nat) : n ≤ continued n codes := by
  induction codes generalizing n with
  | nil => exact Nat.le_refl n
  | cons code codes ih =>
      have hRest := ih (n * 10 + (code - 0x30))
      rw [continued, List.foldl_cons]
      rw [continued] at hRest
      omega

/-- Digits are read up to the limit. What they spell does not get smaller on the way. -/
theorem readDigits_eq_ok_iff {limit n m : Nat} {codes : List Nat} (h : n ≤ limit) :
    readDigits limit n codes = .ok m ↔
      (∀ code ∈ codes, 0x30 ≤ code ∧ code ≤ 0x39) ∧ continued n codes = m ∧ m ≤ limit := by
  induction codes generalizing n with
  | nil =>
      simp only [readDigits, continued, List.foldl_nil, Except.ok.injEq]
      constructor
      · rintro rfl
        exact ⟨by simp, rfl, h⟩
      · exact fun h => h.2.1
  | cons code codes ih =>
      rw [List.forall_mem_cons, readDigits]
      by_cases hDigit : 0x30 ≤ code ∧ code ≤ 0x39
      · have hRead : digit? code = some (code - 0x30) := if_pos hDigit
        have hSame : continued n (code :: codes) = continued (n * 10 + (code - 0x30)) codes := rfl
        have hLess := le_continued (n * 10 + (code - 0x30)) codes
        simp only [hRead, hSame]
        by_cases hLimit : limit < n * 10 + (code - 0x30)
        · rw [if_pos hLimit]
          refine iff_of_false (by simp) ?_
          rintro ⟨-, rfl, hSmall⟩
          omega
        · rw [if_neg hLimit, ih (Nat.not_lt.1 hLimit)]
          simp only [hDigit, and_self, true_and]
      · have hRead : digit? code = none := if_neg hDigit
        simp [hRead, hDigit]

/-- Digits that are given as bytes. -/
theorem readDigits_bytes_eq_ok_iff {n : Nat} {digits : List UInt8} :
    readDigits maxWord 0 (digits.map UInt8.toNat) = .ok n ↔
      (∀ b ∈ digits, 0x30 ≤ b.toNat ∧ b.toNat ≤ 0x39) ∧
        digits.foldl (fun n b => n * 10 + (b.toNat - 0x30)) 0 = n ∧ n ≤ maxWord := by
  rw [readDigits_eq_ok_iff (Nat.zero_le _), List.forall_mem_map, continued, List.foldl_map]

/-- The text spells the number `n`: digits, at least one, perhaps with one plus sign in front, and
of no more than 64 bits. Leading zeros are allowed. -/
def Spells (s : String) (n : Nat) : Prop :=
  ∃ digits : List Char, (s.toList = digits ∨ s.toList = '+' :: digits) ∧ digits ≠ [] ∧
    (∀ c ∈ digits, c.isDigit = true) ∧ continued 0 (digits.map Char.toNat) = n ∧ n ≤ maxWord

theorem isDigit_iff {c : Char} : c.isDigit = true ↔ 0x30 ≤ c.toNat ∧ c.toNat ≤ 0x39 := by
  simp only [Char.isDigit, Bool.and_eq_true, decide_eq_true_eq, ge_iff_le, UInt32.le_iff_toNat_le]
  exact Iff.rfl

variable {s : String} {digits : List Char} {n : Nat}

theorem readDigits_toNat_eq_ok_iff :
    readDigits maxWord 0 (digits.map Char.toNat) = .ok n ↔
      (∀ c ∈ digits, c.isDigit = true) ∧ continued 0 (digits.map Char.toNat) = n ∧ n ≤ maxWord := by
  rw [readDigits_eq_ok_iff (Nat.zero_le _), List.forall_mem_map]
  simp only [isDigit_iff]

theorem read_of_plus (h : s.toList = '+' :: digits) (hSome : digits ≠ []) :
    read s = readDigits maxWord 0 (digits.map Char.toNat) := by
  cases digits with
  | nil => exact absurd rfl hSome
  | cons c cs =>
      rw [read, h]
      rfl

theorem read_of_no_plus (h : s.toList = digits) (hSome : digits ≠ [])
    (hPlus : digits.head? ≠ some '+') : read s = readDigits maxWord 0 (digits.map Char.toNat) := by
  rw [read, h]
  split
  · exact absurd rfl hSome
  · exact absurd rfl hPlus
  · exact absurd rfl hPlus
  · rfl

theorem Spells.read (h : Spells s n) : read s = .ok n := by
  obtain ⟨digits, hText, hSome, hDigits, hValue⟩ := h
  have hRead : Decimal.read s = readDigits maxWord 0 (digits.map Char.toNat) := by
    rcases hText with hText | hText
    · refine read_of_no_plus hText hSome fun hPlus => ?_
      exact absurd (hDigits '+' (List.mem_of_head? hPlus)) (by decide)
    · exact read_of_plus hText hSome
  exact hRead.trans (readDigits_toNat_eq_ok_iff.2 ⟨hDigits, hValue⟩)

theorem spells_of_read (h : read s = .ok n) : Spells s n := by
  unfold read at h
  split at h
  · cases h
  · cases h
  next _ digits hSome hText =>
    exact ⟨digits, Or.inr hText, hSome, readDigits_toNat_eq_ok_iff.1 h⟩
  next hSome _ _ =>
    exact ⟨s.toList, Or.inl rfl, hSome, readDigits_toNat_eq_ok_iff.1 h⟩

theorem Spells.unique {m : Nat} (h : Spells s n) (h' : Spells s m) : n = m :=
  Except.ok.inj (h.read.symm.trans h'.read)

end DocWire.Decimal

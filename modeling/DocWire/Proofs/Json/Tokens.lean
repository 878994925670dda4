import DocWire.Proofs.Json.Grammar
import DocWire.Proofs.Text.Utf8
import Mathlib.Data.List.DropRight
import Mathlib.Data.List.TakeDrop

namespace DocWire.Json

/-- A reader that succeeds hands on what it read. -/
@[simp] theorem ok_bind {ε α β : Type} (a : α) (f : α → Except ε β) : Except.ok a >>= f = f a :=
  rfl

variable {s t : Bytes} {b : UInt8}

theorem Blanks.skipBlanks_eq (h : Blanks s t) : skipBlanks s = skipBlanks t := by
  induction h with
  | none s => rfl
  | cons hBlank rest ih => rw [← ih, skipBlanks, List.dropWhile_cons_of_pos hBlank, skipBlanks]

/-- Blanks are skipped up to the first byte that is none. -/
theorem Blanks.skipBlanks (h : Blanks s (b :: t)) (hb : isBlank b = false) :
    skipBlanks s = b :: t := by
  rw [h.skipBlanks_eq, Json.skipBlanks, List.dropWhile_cons_of_neg (by simp [hb])]

theorem Blanks.skipBlanks_nil (h : Blanks s []) : Json.skipBlanks s = [] :=
  h.skipBlanks_eq

@[simp] theorem skipBlanks_skipBlanks (s : Bytes) : skipBlanks (skipBlanks s) = skipBlanks s :=
  List.dropWhile_idempotent _ s

theorem Blanks.length_le (h : Blanks s t) : t.length ≤ s.length := by
  induction h with
  | none s => exact Nat.le_refl _
  | cons hBlank rest ih => exact Nat.le_succ_of_le ih

theorem Separated.length_le {first : Bool} (h : Separated first s t) : t.length ≤ s.length := by
  cases h with
  | first => exact Nat.le_refl _
  | comma comma => exact Nat.le_of_succ_le comma.length_le

/-- What follows does not continue a number. -/
structure Stops (t : Bytes) : Prop where
  digit : startsWithDigit t = false
  point : t.head? ≠ some (byte '.')
  letter : startsWithE t = false

theorem isBlank_iff : isBlank b = true ↔ b ∈ [byte ' ', byte '\n', byte '\t', byte '\r'] := by
  simp [isBlank, or_assoc]

/-- A number stops at a blank, at a comma and where a container is closed. -/
theorem Blanks.stops (h : Blanks s (b :: t)) (hb : b ∈ [byte ',', byte ']', byte '\x7d']) :
    Stops s := by
  have hFirst {x : UInt8} (r : Bytes) (hx : x ∈ [byte ',', byte ']', byte '\x7d', byte ' ',
      byte '\n', byte '\t', byte '\r']) : Stops (x :: r) := by
    simp only [List.mem_cons, List.not_mem_nil, or_false] at hx
    rcases hx with rfl | rfl | rfl | rfl | rfl | rfl | rfl <;>
      exact ⟨rfl, by rw [List.head?_cons]; decide, rfl⟩
  cases h with
  | none => exact hFirst t (List.mem_append_left _ hb)
  | cons hBlank rest =>
      exact hFirst _ (List.mem_append_right [_, _, _] (isBlank_iff.1 hBlank))

variable {n m : Nat}

theorem Whole.front (h : Whole s n t) : ∃ b r d, s = b :: r ∧ digit? b = some d := by
  cases h with
  | zero => exact ⟨_, _, 0, rfl, rfl⟩
  | digits hDigit hLead rest => exact ⟨_, _, _, rfl, hDigit⟩

theorem ne_of_digit {c : UInt8} {d : Nat} (h : digit? b = some d) (hc : digit? c = none) :
    b ≠ c := by
  rintro rfl
  rw [hc] at h
  cases h

theorem skipBlanks_of_digit {d : Nat} (h : digit? b = some d) (s : Bytes) :
    skipBlanks (b :: s) = b :: s := by
  apply List.dropWhile_cons_of_neg
  intro hBlank
  have hNone (c : UInt8) (hc : c ∈ [byte ' ', byte '\n', byte '\t', byte '\r']) :
      digit? c = none := by
    simp only [List.mem_cons, List.not_mem_nil, or_false] at hc
    rcases hc with rfl | rfl | rfl | rfl <;> rfl
  exact ne_of_digit h (hNone b (isBlank_iff.1 hBlank)) rfl

theorem wholeDigits_of_startsWithDigit (h : startsWithDigit t = false) (n : Nat) :
    wholeDigits n 0 t = (n, 0, t) := by
  cases t with
  | nil => rfl
  | cons b t =>
      have hNone : digit? b = none := by simpa [startsWithDigit] using h
      simp [wholeDigits, hNone]

theorem Digits.le (h : Digits n s m t) : n ≤ m := by
  induction h with
  | none => exact Nat.le_refl _
  | cons hDigit rest ih => omega

theorem Digits.length_le (h : Digits n s m t) : t.length ≤ s.length := by
  induction h with
  | none => exact Nat.le_refl _
  | cons hDigit rest ih => exact Nat.le_succ_of_le ih

theorem Digits.wholeDigits (h : Digits n s m t) (hStops : startsWithDigit t = false)
    (hWord : m ≤ Decimal.maxWord) : wholeDigits n 0 s = (m, 0, t) := by
  induction h with
  | none => exact wholeDigits_of_startsWithDigit hStops _
  | cons hDigit rest ih =>
      have hLess := rest.le
      simp only [Json.wholeDigits, hDigit, true_and, ih hStops hWord]
      rw [if_pos (by omega)]

theorem afterWhole_of_stops (h : Stops t) (n : Nat) :
    afterWhole false n 0 t = .ok (.int n, t) := by
  rw [afterWhole, if_neg h.point, if_neg (by simp [h.letter]), if_pos rfl]
  rfl

/-- A natural number of at most 64 bits is read as an integer. -/
theorem Whole.number (h : Whole s n t) (hStops : Stops t) (hWord : n ≤ Decimal.maxWord) :
    number false s = .ok (.int n, t) := by
  cases h with
  | zero =>
      have hZero : digit? (byte '0') = some 0 := rfl
      simp only [Json.number, hZero, hStops.digit]
      exact afterWhole_of_stops hStops 0
  | @digits b s _ d _ hDigit hLead rest =>
      obtain ⟨d, rfl⟩ := Nat.exists_eq_succ_of_ne_zero hLead
      simp only [Json.number, hDigit, rest.wholeDigits hStops.digit hWord]
      exact afterWhole_of_stops hStops n

variable {c : Char} {cs : List Char}

theorem FourDigits.hexEscape (h : FourDigits s n t) : hexEscape s = .ok (n, t) := by
  obtain ⟨t, ha, hb, hc, hd⟩ := h
  simp only [Json.hexEscape, ha, hb, hc, hd]

theorem FourDigits.length_eq (h : FourDigits s n t) : s.length = t.length + 4 := by
  obtain ⟨t, ha, hb, hc, hd⟩ := h
  rfl

theorem toNat_byte {c : Char} (h : c.toNat < 0x80) : (byte c).toNat = c.toNat :=
  Utf8.toNat_toUInt8 (by omega)

/-- The bytes of a character that stands for itself do so too. -/
theorem isPlain_of_mem_encodeChar (hControl : 0x20 ≤ c.toNat) (hMark : c ≠ '"')
    (hEscape : c ≠ '\\') (h : b ∈ Utf8.encodeChar c) : isPlain b = true := by
  have hCode : b.toNat < 0x80 → c.toNat = b.toNat := Utf8.toNat_of_mem_encodeChar h
  have hNe {d : Char} (hd : d.toNat < 0x80) (hcd : c ≠ d) : b ≠ byte d := by
    rintro rfl
    rw [toNat_byte hd] at hCode
    exact hcd (Char.toNat_inj.1 (hCode hd))
  have hLow : (0x20 : UInt8) ≤ b := by
    rw [UInt8.le_iff_toNat_le]
    by_contra hSmall
    have hSmall' : b.toNat < 0x20 := Nat.lt_of_not_le hSmall
    have hSame := hCode (by omega)
    omega
  have hMark' : b ≠ byte '"' := hNe (by decide) hMark
  have hEscape' : b ≠ byte '\\' := hNe (by decide) hEscape
  rw [isPlain, decide_eq_true hLow, decide_eq_true hMark', decide_eq_true hEscape']
  rfl

theorem shortEscape?_u : shortEscape? (byte 'u') = none := rfl

theorem escape_short (h : shortEscape? b = some c) (s : Bytes) : escape (b :: s) = .ok (c, s) := by
  simp only [escape, h]

theorem escape_numbered (code : FourDigits s n t) (h : n < 0xD800 ∨ 0xDFFF < n) :
    escape (byte 'u' :: s) = .ok (Char.ofNat n, t) := by
  have hSecond : ¬ (0xDC00 ≤ n ∧ n ≤ 0xDFFF) := by omega
  have hFirst : ¬ (0xD800 ≤ n ∧ n ≤ 0xDBFF) := by omega
  simp only [escape, shortEscape?_u, numberedEscape, code.hexEscape, ok_bind, if_true,
    if_neg hSecond, if_neg hFirst]
  rfl

theorem escape_pair {high low : Nat} {s₁ : Bytes}
    (first : FourDigits s high (byte '\\' :: byte 'u' :: s₁))
    (hHigh : 0xD800 ≤ high ∧ high ≤ 0xDBFF) (second : FourDigits s₁ low t)
    (hLow : 0xDC00 ≤ low ∧ low ≤ 0xDFFF) :
    escape (byte 'u' :: s) =
      .ok (Char.ofNat ((high - 0xD800) * 0x400 + (low - 0xDC00) + 0x10000), t) := by
  have hNotSecond : ¬ (0xDC00 ≤ high ∧ high ≤ 0xDFFF) := by omega
  have hSecond : ¬ (low < 0xDC00 ∨ 0xDFFF < low) := by omega
  simp only [escape, shortEscape?_u, numberedEscape, first.hexEscape, ok_bind, if_true,
    if_neg hNotSecond, if_pos hHigh, lowSurrogate, ne_eq, not_true, if_false, second.hexEscape,
    if_neg hSecond]
  rfl

/-- What stands behind characters that stand for themselves: the closing mark of the string, or an
escape and more characters. The reader takes such characters in one stretch. -/
inductive Tail : Bytes → List Char → Bytes → Prop where
  | close (t : Bytes) : Tail (byte '"' :: t) [] t
  | escape {e s t : Bytes} {c : Char} {cs : List Char} (hEscape : escape e = .ok (c, s))
      (hLess : s.length < e.length) (rest : Characters s cs t) : Tail (byte '\\' :: e) (c :: cs) t

theorem Characters.length_lt (h : Characters s cs t) : t.length < s.length := by
  induction h with
  | close s => exact Nat.lt_succ_self _
  | plain hControl hMark hEscape rest ih => rw [List.length_append]; omega
  | short hShort rest ih => simp only [List.length_cons]; omega
  | numbered code hScalar rest ih =>
      have hCode := code.length_eq
      simp only [List.length_cons]
      omega
  | pair first hHigh second hLow rest ih =>
      have hFirst := first.length_eq
      have hSecond := second.length_eq
      simp only [List.length_cons] at hFirst ⊢
      omega

/-- The characters of a string begin with those that stand for themselves, perhaps with none. -/
theorem Characters.exists_tail (h : Characters s cs t) :
    ∃ plain r ds, s = plain.flatMap Utf8.encodeChar ++ r ∧ cs = plain ++ ds ∧
      (∀ b ∈ plain.flatMap Utf8.encodeChar, isPlain b = true) ∧ Tail r ds t := by
  induction h with
  | close t => exact ⟨[], _, [], rfl, rfl, by simp, .close t⟩
  | @plain c cs s t hControl hMark hEscape rest ih =>
      obtain ⟨plain, r, ds, rfl, rfl, hPlain, tail⟩ := ih
      refine ⟨c :: plain, r, ds, by simp, rfl, ?_, tail⟩
      rw [List.flatMap_cons, List.forall_mem_append]
      exact ⟨fun b => isPlain_of_mem_encodeChar hControl hMark hEscape, hPlain⟩
  | short hShort rest =>
      exact ⟨[], _, _, rfl, rfl, by simp, .escape (escape_short hShort _) (by simp) rest⟩
  | numbered code hScalar rest =>
      have hCode := code.length_eq
      refine ⟨[], _, _, rfl, rfl, by simp, .escape (escape_numbered code hScalar) ?_ rest⟩
      simp only [List.length_cons]
      omega
  | pair first hHigh second hLow rest =>
      have hFirst := first.length_eq
      have hSecond := second.length_eq
      refine ⟨[], _, _, rfl, rfl, by simp,
        .escape (escape_pair first hHigh second hLow) ?_ rest⟩
      simp only [List.length_cons] at hFirst ⊢
      omega

/-- Between two escapes the reader takes one step. -/
theorem Characters.stringChars (h : Characters s cs t) {steps : Nat} (hSteps : s.length < steps) :
    stringChars steps s = .ok (cs, t) := by
  induction steps generalizing s cs with
  | zero => cases hSteps
  | succ steps ih =>
      obtain ⟨plain, r, ds, rfl, rfl, hPlain, tail⟩ := h.exists_tail
      have hChars (rest : Bytes) : plainChars (plain.flatMap Utf8.encodeChar) rest = .ok plain := by
        simp only [plainChars, Utf8.decodeFrom_flatMap_encodeChar]
      have hSpan {b : UInt8} {r : Bytes} (hb : isPlain b = false) :
          (plain.flatMap Utf8.encodeChar ++ b :: r).span isPlain =
            (plain.flatMap Utf8.encodeChar, b :: r) := by
        rw [List.span_eq_takeWhile_dropWhile, List.takeWhile_append_of_pos hPlain,
          List.dropWhile_append_of_pos hPlain]
        simp [hb]
      rw [List.length_append] at hSteps
      cases tail with
      | close =>
          rw [Json.stringChars, hSpan rfl]
          simp only [hChars, List.append_nil]
          rfl
      | @escape e s' _ d ds hEscape hLess rest =>
          have hRest : Json.stringChars steps s' = .ok (ds, t) :=
            ih rest (by rw [List.length_cons] at hSteps; omega)
          rw [Json.stringChars, hSpan rfl]
          simp only [hChars]
          rw [if_neg (by decide)]
          simp only [if_true, ok_bind, hEscape, hRest]
          rfl

/-- A string is read as its characters. -/
theorem Characters.string (h : Characters s cs t) : string s = .ok (String.ofList cs, t) := by
  rw [Json.string, h.stringChars (Nat.lt_succ_self _)]
  rfl

/-- The inside of a string is passed over. No step is taken for a byte that stands for itself. -/
theorem Inside.skipString (h : Inside s t) {steps : Nat} (hSteps : s.length < steps) :
    skipString steps s = .ok t := by
  induction h generalizing steps with
  | close s =>
      obtain ⟨k, rfl⟩ := Nat.exists_eq_add_of_lt hSteps
      rfl
  | plain hPlain rest ih =>
      have hRest := ih (Nat.lt_of_succ_lt hSteps)
      obtain ⟨k, rfl⟩ := Nat.exists_eq_add_of_lt hSteps
      rw [← hRest, Json.skipString, Json.skipString, List.dropWhile_cons_of_pos hPlain]
  | short hShort rest ih =>
      obtain ⟨k, rfl⟩ := Nat.exists_eq_add_of_lt hSteps
      rw [Json.skipString, List.dropWhile_cons_of_neg (by decide)]
      simp only [hShort, Option.isSome_some, if_true]
      exact ih (by simp only [List.length_cons]; omega)
  | numbered code rest ih =>
      obtain ⟨k, rfl⟩ := Nat.exists_eq_add_of_lt hSteps
      have hCode := code.length_eq
      rw [Json.skipString, List.dropWhile_cons_of_neg (by decide)]
      simp only [shortEscape?_u, code.hexEscape, ok_bind]
      exact ih (by simp only [List.length_cons]; omega)

theorem skipDigits_cons {d : Nat} (h : digit? b = some d) (s : Bytes) :
    skipDigits (b :: s) = skipDigits s :=
  List.dropWhile_cons_of_pos (by simp [h])

/-- Digits are passed over up to where they end. -/
theorem Digits.skipDigits (h : Digits n s m t) (hStops : startsWithDigit t = false) :
    skipDigits s = t := by
  induction h with
  | none n s =>
      cases s with
      | nil => rfl
      | cons b s => exact List.dropWhile_cons_of_neg (by simpa [startsWithDigit] using hStops)
  | cons hDigit rest ih => rw [skipDigits_cons hDigit, ih hStops]

theorem startsWithDigit_cons {d : Nat} (h : digit? b = some d) (s : Bytes) :
    startsWithDigit (b :: s) = true := by
  simp [startsWithDigit, h]

/-- The letter of an exponent neither is a digit nor begins a fraction. -/
theorem Exponent.stops (h : Exponent s t) (hStops : Stops t) :
    startsWithDigit s = false ∧ s.head? ≠ some (byte '.') := by
  cases h with
  | none => exact ⟨hStops.digit, hStops.point⟩
  | unsigned hLetter hDigit rest => rcases hLetter with rfl | rfl <;> exact ⟨rfl, by simp⟩
  | signed hLetter hSign hDigit rest => rcases hLetter with rfl | rfl <;> exact ⟨rfl, by simp⟩

theorem Exponent.skipExponent (h : Exponent s t) (hStops : Stops t) :
    (if startsWithE s then skipExponent s.tail else .ok s) = .ok t := by
  have hLetter {e : UInt8} {r : Bytes} (he : e = byte 'e' ∨ e = byte 'E') :
      startsWithE (e :: r) = true := by
    rcases he with rfl | rfl <;> rfl
  cases h with
  | none => rw [if_neg (by simp [hStops.letter])]
  | unsigned he hDigit rest =>
      have hPlus := ne_of_digit hDigit (c := byte '+') rfl
      have hMinus := ne_of_digit hDigit (c := byte '-') rfl
      simp only [if_pos (hLetter he), List.tail_cons, Json.skipExponent, decide_eq_false hPlus,
        decide_eq_false hMinus, Bool.or_self, Bool.false_eq_true, if_false,
        startsWithDigit_cons hDigit, if_true, skipDigits_cons hDigit,
        rest.skipDigits hStops.digit]
  | @signed letter sign b s _ d n he hSign hDigit rest =>
      have hSign' : (sign = byte '+' || sign = byte '-') = true := by simpa using hSign
      simp only [if_pos (hLetter he), List.tail_cons, Json.skipExponent, hSign', if_true,
        startsWithDigit_cons hDigit, skipDigits_cons hDigit, rest.skipDigits hStops.digit]

theorem Fraction.startsWithDigit (h : Fraction s t) (hStops : startsWithDigit t = false) :
    startsWithDigit s = false := by
  cases h with
  | none => exact hStops
  | point hDigit rest => rfl

theorem Whole.skipDigits (h : Whole s n t) (hStops : startsWithDigit t = false) :
    startsWithDigit s = true ∧ (s.head? = some (byte '0') && startsWithDigit s.tail) = false ∧
      Json.skipDigits s.tail = t := by
  cases h with
  | zero => exact ⟨rfl, by simp [hStops], (Digits.none 0 t).skipDigits hStops⟩
  | @digits b s _ d n hDigit hLead rest =>
      have hNotZero : b ≠ byte '0' := by
        rintro rfl
        exact hLead (Option.some.inj hDigit).symm
      refine ⟨startsWithDigit_cons hDigit _, ?_, rest.skipDigits hStops⟩
      simp only [List.head?_cons, Option.some_inj, decide_eq_false hNotZero, Bool.false_and]

/-- A number is passed over if what follows does not continue it. -/
theorem Unsigned.skipNumber (h : Unsigned s t) (hStops : Stops t) : skipNumber s = .ok t := by
  cases h with
  | intro whole fraction exponent =>
      obtain ⟨hDigit, hPoint⟩ := exponent.stops hStops
      obtain ⟨hStarts, hLead, hSkipped⟩ := whole.skipDigits (fraction.startsWithDigit hDigit)
      simp only [Json.skipNumber, hStarts, hLead, hSkipped, Bool.not_true, Bool.false_eq_true,
        if_false]
      cases fraction with
      | none =>
          rw [if_neg hPoint]
          exact exponent.skipExponent hStops
      | point hFirst rest =>
          simp only [List.head?_cons, List.tail_cons, if_true, startsWithDigit_cons hFirst,
            Bool.not_true, Bool.false_eq_true, if_false, skipDigits_cons hFirst,
            rest.skipDigits hDigit]
          exact exponent.skipExponent hStops

theorem Fraction.length_le (h : Fraction s t) : t.length ≤ s.length := by
  cases h with
  | none => exact Nat.le_refl _
  | point hDigit rest =>
      have hRest := rest.length_le
      simp only [List.length_cons]
      omega

theorem Exponent.length_le (h : Exponent s t) : t.length ≤ s.length := by
  cases h with
  | none => exact Nat.le_refl _
  | unsigned hLetter hDigit rest =>
      have hRest := rest.length_le
      simp only [List.length_cons]
      omega
  | signed hLetter hSign hDigit rest =>
      have hRest := rest.length_le
      simp only [List.length_cons]
      omega

theorem Whole.length_lt (h : Whole s n t) : t.length < s.length := by
  cases h with
  | zero => exact Nat.lt_succ_self _
  | digits hDigit hLead rest => exact Nat.lt_succ_of_le rest.length_le

theorem Unsigned.length_lt (h : Unsigned s t) : t.length < s.length := by
  cases h with
  | intro whole fraction exponent =>
      have hWhole := whole.length_lt
      have hFraction := fraction.length_le
      have hExponent := exponent.length_le
      omega

theorem Inside.length_lt (h : Inside s t) : t.length < s.length := by
  induction h with
  | close s => exact Nat.lt_succ_self _
  | plain hPlain rest ih => exact Nat.lt_succ_of_lt ih
  | short hShort rest ih => exact Nat.lt_succ_of_lt (Nat.lt_succ_of_lt ih)
  | numbered code rest ih =>
      have hCode := code.length_eq
      simp only [List.length_cons]
      omega

end DocWire.Json

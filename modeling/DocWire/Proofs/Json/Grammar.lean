import DocWire.Json.Skip

/-! What stands at the front of a text, said without a reader. Each relation is one between a byte
string and a later part of it. -/

namespace DocWire.Json

/-- `s` begins with blanks, perhaps with none. -/
inductive Blanks : Bytes → Bytes → Prop where
  | none (s : Bytes) : Blanks s s
  | cons {b : UInt8} {s t : Bytes} (hBlank : isBlank b = true) (rest : Blanks s t) :
      Blanks (b :: s) t

/-- `s` begins with digits, perhaps with none, that continue the number `n` to `m`. -/
inductive Digits : Nat → Bytes → Nat → Bytes → Prop where
  | none (n : Nat) (s : Bytes) : Digits n s n s
  | cons {n m d : Nat} {b : UInt8} {s t : Bytes} (hDigit : digit? b = some d)
      (rest : Digits (n * 10 + d) s m t) : Digits n (b :: s) m t

/-- `s` begins with a natural number, which has no zero in front of other digits. -/
inductive Whole : Bytes → Nat → Bytes → Prop where
  | zero (s : Bytes) : Whole (byte '0' :: s) 0 s
  | digits {b : UInt8} {s t : Bytes} {d n : Nat} (hDigit : digit? b = some d) (hLead : d ≠ 0)
      (rest : Digits d s n t) : Whole (b :: s) n t

/-- `s` begins with a fraction, or there is none. -/
inductive Fraction : Bytes → Bytes → Prop where
  | none (s : Bytes) : Fraction s s
  | point {b : UInt8} {s t : Bytes} {d n : Nat} (hDigit : digit? b = some d)
      (rest : Digits d s n t) : Fraction (byte '.' :: b :: s) t

/-- `s` begins with an exponent, or there is none. -/
inductive Exponent : Bytes → Bytes → Prop where
  | none (s : Bytes) : Exponent s s
  | unsigned {letter b : UInt8} {s t : Bytes} {d n : Nat}
      (hLetter : letter = byte 'e' ∨ letter = byte 'E') (hDigit : digit? b = some d)
      (rest : Digits d s n t) : Exponent (letter :: b :: s) t
  | signed {letter sign b : UInt8} {s t : Bytes} {d n : Nat}
      (hLetter : letter = byte 'e' ∨ letter = byte 'E') (hSign : sign = byte '+' ∨ sign = byte '-')
      (hDigit : digit? b = some d) (rest : Digits d s n t) : Exponent (letter :: sign :: b :: s) t

/-- `s` begins with a number behind its sign. -/
inductive Unsigned : Bytes → Bytes → Prop where
  | intro {s s₁ s₂ t : Bytes} {n : Nat} (whole : Whole s n s₁) (fraction : Fraction s₁ s₂)
      (exponent : Exponent s₂ t) : Unsigned s t

/-- `s` begins with four digits of base sixteen. -/
inductive FourDigits : Bytes → Nat → Bytes → Prop where
  | intro {a b c d : UInt8} {w x y z : Nat} (s : Bytes) (ha : hexDigit? a = some w)
      (hb : hexDigit? b = some x) (hc : hexDigit? c = some y) (hd : hexDigit? d = some z) :
      FourDigits (a :: b :: c :: d :: s) (((w * 16 + x) * 16 + y) * 16 + z) s

/-- `s` begins with the characters of a string and its closing mark. A character stands for itself
or is escaped, by a letter or by its number; one beyond four digits is written as two surrogates. -/
inductive Characters : Bytes → List Char → Bytes → Prop where
  | close (s : Bytes) : Characters (byte '"' :: s) [] s
  | plain {c : Char} {cs : List Char} {s t : Bytes} (hControl : 0x20 ≤ c.toNat) (hMark : c ≠ '"')
      (hEscape : c ≠ '\\') (rest : Characters s cs t) :
      Characters (Utf8.encodeChar c ++ s) (c :: cs) t
  | short {b : UInt8} {c : Char} {cs : List Char} {s t : Bytes} (hShort : shortEscape? b = some c)
      (rest : Characters s cs t) : Characters (byte '\\' :: b :: s) (c :: cs) t
  | numbered {n : Nat} {cs : List Char} {s s₁ t : Bytes} (code : FourDigits s n s₁)
      (hScalar : n < 0xD800 ∨ 0xDFFF < n) (rest : Characters s₁ cs t) :
      Characters (byte '\\' :: byte 'u' :: s) (Char.ofNat n :: cs) t
  | pair {high low : Nat} {cs : List Char} {s s₁ s₂ t : Bytes}
      (first : FourDigits s high (byte '\\' :: byte 'u' :: s₁))
      (hHigh : 0xD800 ≤ high ∧ high ≤ 0xDBFF) (second : FourDigits s₁ low s₂)
      (hLow : 0xDC00 ≤ low ∧ low ≤ 0xDFFF) (rest : Characters s₂ cs t) :
      Characters (byte '\\' :: byte 'u' :: s)
        (Char.ofNat ((high - 0xD800) * 0x400 + (low - 0xDC00) + 0x10000) :: cs) t

/-- `s` begins with the inside of a string and its closing mark, whatever its escapes stand for. -/
inductive Inside : Bytes → Bytes → Prop where
  | close (s : Bytes) : Inside (byte '"' :: s) s
  | plain {b : UInt8} {s t : Bytes} (hPlain : isPlain b = true) (rest : Inside s t) :
      Inside (b :: s) t
  | short {b : UInt8} {c : Char} {s t : Bytes} (hShort : shortEscape? b = some c)
      (rest : Inside s t) : Inside (byte '\\' :: b :: s) t
  | numbered {n : Nat} {s s₁ t : Bytes} (code : FourDigits s n s₁) (rest : Inside s₁ t) :
      Inside (byte '\\' :: byte 'u' :: s) t

/-- The byte that opens a container. -/
def Container.opening : Container → UInt8
  | .list => byte '['
  | .object => byte '\x7b'

/-- `s` begins with a comma, unless a first item or member follows. -/
inductive Separated : Bool → Bytes → Bytes → Prop where
  | first (s : Bytes) : Separated true s s
  | comma {s t : Bytes} (comma : Blanks s (byte ',' :: t)) : Separated false s t

/-- What a text is made of. -/
inductive Part where
  | value
  /-- An item or a member. -/
  | entry (c : Container)
  /-- The items or members that are left of a container, and what closes it. -/
  | rest (c : Container) (first : Bool)

/-- `s` begins with such a part of a text. -/
inductive Begins : Part → Bytes → Bytes → Prop where
  | null (s : Bytes) : Begins .value (byte 'n' :: byte 'u' :: byte 'l' :: byte 'l' :: s) s
  | yes (s : Bytes) : Begins .value (byte 't' :: byte 'r' :: byte 'u' :: byte 'e' :: s) s
  | no (s : Bytes) :
      Begins .value (byte 'f' :: byte 'a' :: byte 'l' :: byte 's' :: byte 'e' :: s) s
  | number {s t : Bytes} (number : Unsigned s t) : Begins .value s t
  | negative {s t : Bytes} (number : Unsigned s t) : Begins .value (byte '-' :: s) t
  | string {s t : Bytes} (inside : Inside s t) : Begins .value (byte '"' :: s) t
  | container {c : Container} {s t : Bytes} (rest : Begins (.rest c true) s t) :
      Begins .value (c.opening :: s) t
  | item {s s₁ t : Bytes} (before : Blanks s s₁) (value : Begins .value s₁ t) :
      Begins (.entry .list) s t
  | member {s s₁ s₂ s₃ s₄ t : Bytes} (before : Blanks s (byte '"' :: s₁)) (name : Inside s₁ s₂)
      (colon : Blanks s₂ (byte ':' :: s₃)) (after : Blanks s₃ s₄) (value : Begins .value s₄ t) :
      Begins (.entry .object) s t
  | close {c : Container} {first : Bool} {s t : Bytes} (close : Blanks s (c.closing :: t)) :
      Begins (.rest c first) s t
  | more {c : Container} {first : Bool} {s s₁ s₂ t : Bytes} (front : Separated first s s₁)
      (entry : Begins (.entry c) s₁ s₂) (rest : Begins (.rest c false) s₂ t) :
      Begins (.rest c first) s t

end DocWire.Json

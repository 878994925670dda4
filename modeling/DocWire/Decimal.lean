/-! Counts and request numbers as digits and back. Reading goes from left to right and stops at the
first digit that is none or that carries the number beyond a limit. -/

namespace DocWire.Decimal

/-- The number with a one and `n` zeros. -/
def powerOfTen (n : Nat) : Nat :=
  Nat.pow 10 n

def digitChar (d : Nat) : Char :=
  Char.ofNat (0x30 + d)

/-- The digits of a number, the most significant one first, without leading zeros. -/
def digits (n : Nat) : List Char :=
  if n < 10 then [digitChar n] else digits (n / 10) ++ [digitChar (n % 10)]

def text (n : Nat) : String :=
  String.ofList (digits n)

/-- The largest number that 64 bits hold. -/
def maxWord : Nat := 0xFFFFFFFFFFFFFFFF

/-- Why a text is no number. -/
inductive Fault where
  | empty
  | badDigit
  | tooLarge
deriving DecidableEq, Repr

def Fault.message : Fault → String
  | .empty => "cannot parse integer from empty string"
  | .badDigit => "invalid digit found in string"
  | .tooLarge => "number too large to fit in target type"

/-- The value of a digit, given by its code. -/
def digit? (code : Nat) : Option Nat :=
  if 0x30 ≤ code ∧ code ≤ 0x39 then some (code - 0x30) else none

/-- Continues the number `n` with further digits, given by their codes, up to `limit`. -/
def readDigits (limit n : Nat) : List Nat → Except Fault Nat
  | [] => .ok n
  | code :: s =>
    match digit? code with
    | none => .error .badDigit
    | some d => if limit < n * 10 + d then .error .tooLarge else readDigits limit (n * 10 + d) s

/-- The character of a digit is read as that digit. -/
theorem digit?_digitChar {d : Nat} (h : d < 10) : digit? (digitChar d).toNat = some d := by
  match d, h with
  | 0, _ | 1, _ | 2, _ | 3, _ | 4, _ | 5, _ | 6, _ | 7, _ | 8, _ | 9, _ => rfl

/-- Reading goes on after the first part of a number with what that part came to. -/
theorem readDigits_append {limit n m : Nat} {first rest : List Nat}
    (h : readDigits limit n first = .ok m) :
    readDigits limit n (first ++ rest) = readDigits limit m rest := by
  induction first generalizing n with
  | nil => simp only [readDigits, Except.ok.injEq] at h; simp [h]
  | cons code s ih =>
    simp only [readDigits] at h
    simp only [List.cons_append, readDigits]
    split at h
    · cases h
    next d hd =>
      split at h
      · cases h
      next hl => simpa [hl] using ih h

/-- What is written is read back, up to the limit. -/
theorem readDigits_digits {limit n : Nat} (h : n ≤ limit) :
    readDigits limit 0 ((digits n).map Char.toNat) = .ok n := by
  fun_induction digits n with
  | case1 n hn => simp [readDigits, digit?_digitChar hn, Nat.not_lt.2 h]
  | case2 n hn ih =>
    have hd := digit?_digitChar (Nat.mod_lt n (by decide : 0 < 10))
    rw [List.map_append, readDigits_append (ih (by omega))]
    simp [readDigits, hd, Nat.div_add_mod' n 10, Nat.not_lt.2 h]

/-- Reads a number of at most 64 bits. One plus sign may stand in front of the digits. -/
def read (s : String) : Except Fault Nat :=
  match s.toList with
  | [] => .error .empty
  | ['+'] => .error .badDigit
  | '+' :: s => readDigits maxWord 0 (s.map Char.toNat)
  | s => readDigits maxWord 0 (s.map Char.toNat)

end DocWire.Decimal

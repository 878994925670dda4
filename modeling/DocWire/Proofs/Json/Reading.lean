import DocWire.Json.Typed
import DocWire.Proofs.Json.Skipping

namespace DocWire.Json

/-- `s` begins with the texts that are left of a list, and its bracket. -/
inductive TextItems : Bool → Bytes → List String → Bytes → Prop where
  | close {first : Bool} {s t : Bytes} (close : Blanks s (byte ']' :: t)) : TextItems first s [] t
  | more {first : Bool} {s s₁ s₂ s₃ t : Bytes} {cs : List Char} {ts : List String}
      (front : Separated first s s₁) (before : Blanks s₁ (byte '"' :: s₂))
      (text : Characters s₂ cs s₃) (rest : TextItems false s₃ ts t) :
      TextItems first s (String.ofList cs :: ts) t

/-- `s` begins with a list of texts. -/
inductive TextList : Bytes → List String → Bytes → Prop where
  | intro {s t : Bytes} {ts : List String} (items : TextItems true s ts t) :
      TextList (byte '[' :: s) ts t

/-- `s` begins with the name of a member and its colon. -/
inductive Named : String → Bytes → Bytes → Prop where
  | intro {s s₁ s₂ t : Bytes} {cs : List Char} (before : Blanks s (byte '"' :: s₁))
      (name : Characters s₁ cs s₂) (colon : Blanks s₂ (byte ':' :: t)) :
      Named (String.ofList cs) s t

variable {s s₁ t : Bytes} {b : UInt8} {cs : List Char} {ts : List String} {n : Nat}
  {first : Bool}

theorem Separated.nextItem (front : Separated first s s₁) (h : skipBlanks s₁ = b :: t)
    (hOpen : b ≠ byte ']') : nextItem first s = .ok (some (skipBlanks s₁)) := by
  cases front with
  | first => simp only [Json.nextItem, h, if_neg hOpen, if_true]
  | comma comma =>
      have hComma : byte ',' ≠ byte ']' := by decide
      simp only [Json.nextItem, comma.skipBlanks rfl, if_neg hComma, Bool.false_eq_true, if_false,
        if_true, h, if_neg hOpen]

theorem nextItem_closed (close : Blanks s (byte ']' :: t)) (first : Bool) :
    nextItem first s = .ok none := by
  rw [nextItem, close.skipBlanks rfl]
  exact if_pos rfl

/-- A name that needs no escapes stands between its marks as it is. -/
theorem Named.spelled (name : String)
    (h : ∀ c ∈ name.toList, 0x20 ≤ c.toNat ∧ c ≠ '"' ∧ c ≠ '\\') (t : Bytes) :
    Named name (byte '"' :: (Utf8.encode name ++ byte '"' :: byte ':' :: t)) t := by
  have hCharacters : ∀ cs : List Char, (∀ c ∈ cs, 0x20 ≤ c.toNat ∧ c ≠ '"' ∧ c ≠ '\\') →
      Characters (cs.flatMap Utf8.encodeChar ++ byte '"' :: byte ':' :: t) cs (byte ':' :: t) := by
    intro cs hPlain
    induction cs with
    | nil => exact .close _
    | cons c cs ih =>
        obtain ⟨⟨hControl, hMark, hEscape⟩, hRest⟩ := List.forall_mem_cons.1 hPlain
        rw [List.flatMap_cons, List.append_assoc]
        exact .plain hControl hMark hEscape (ih hRest)
  have hNamed := Named.intro (.none _) (hCharacters name.toList h) (.none _)
  rwa [String.ofList_toList] at hNamed

theorem Named.length_lt {name : String} (h : Named name s t) : t.length < s.length := by
  cases h with
  | intro before name colon =>
      have hBefore := before.length_le
      have hName := name.length_lt
      have hColon := colon.length_le
      simp only [List.length_cons] at hBefore hColon
      omega

theorem nextName_closed (close : Blanks s (byte '\x7d' :: t)) (first : Bool) :
    nextName first s = .ok none := by
  rw [nextName, close.skipBlanks rfl]
  exact if_pos rfl

/-- The name of a member is read, and then its colon. -/
theorem Named.nextName {name : String} (h : Named name s₁ t)
    (front : Separated first s s₁) :
    ∃ r, nextName first s = .ok (some (name, r)) ∧ colon r = .ok t := by
  cases h with
  | @intro _ s₂ s₃ _ cs before name colon =>
      refine ⟨s₃, ?_, by rw [Json.colon, colon.skipBlanks rfl]; exact if_pos rfl⟩
      cases front with
      | first =>
          have hMark : byte '"' ≠ byte '\x7d' := by decide
          simp only [Json.nextName, before.skipBlanks rfl, if_neg hMark, if_true, name.string]
          rfl
      | comma comma =>
          have hComma : byte ',' ≠ byte '\x7d' := by decide
          simp only [Json.nextName, comma.skipBlanks rfl, if_neg hComma, Bool.false_eq_true,
            if_false, if_true, before.skipBlanks rfl, name.string]
          rfl

theorem Blanks.closeObject (h : Blanks s (byte '\x7d' :: t)) : closeObject s = .ok t := by
  rw [Json.closeObject, h.skipBlanks rfl]
  exact if_pos rfl

/-- A natural number of at most 64 bits is read as what it is. -/
theorem Whole.readNatural (h : Whole s₁ n t) (before : Blanks s s₁) (hStops : Stops t)
    (hWord : n ≤ Decimal.maxWord) (wanted : String) : readNatural wanted s = .ok (n, t) := by
  obtain ⟨b, r, d, rfl, hDigit⟩ := h.front
  have hMinus := ne_of_digit hDigit (c := byte '-') rfl
  rw [Json.readNatural, before.skipBlanks_eq, skipBlanks_of_digit hDigit]
  simp only [if_neg hMinus, hDigit, Option.isSome_some, if_true, h.number hStops hWord, ok_bind]
  rfl

theorem Characters.readText (h : Characters s₁ cs t) (before : Blanks s (byte '"' :: s₁))
    (wanted : String) : readText wanted s = .ok (String.ofList cs, t) := by
  rw [Json.readText, before.skipBlanks rfl]
  exact h.string

/-- The texts of a list are read up to the bracket. -/
theorem TextItems.readTextItems (h : TextItems first s ts t) {steps : Nat}
    (hSteps : s.length < steps) : readTextItems steps first s = .ok (ts, byte ']' :: t) := by
  induction h generalizing steps with
  | close close =>
      obtain ⟨k, rfl⟩ := Nat.exists_eq_add_of_lt hSteps
      rw [Json.readTextItems, nextItem_closed close, ok_bind, close.skipBlanks rfl]
      rfl
  | more front before text rest ih =>
      have hFront := front.length_le
      have hBefore := before.length_le
      have hText := text.length_lt
      rw [List.length_cons] at hBefore
      obtain ⟨k, rfl⟩ := Nat.exists_eq_add_of_lt hSteps
      have hNext := front.nextItem (before.skipBlanks rfl) (by decide)
      rw [before.skipBlanks rfl] at hNext
      rw [Json.readTextItems, hNext]
      simp only [ok_bind, text.readText (.none _) "a string"]
      rw [ih (by omega)]
      rfl

theorem TextItems.length_le (h : TextItems first s ts t) : t.length ≤ s.length := by
  induction h with
  | close close => exact Nat.le_of_succ_le close.length_le
  | more front before text rest ih =>
      have hFront := front.length_le
      have hBefore := before.length_le
      have hText := text.length_lt
      rw [List.length_cons] at hBefore
      omega

theorem TextList.length_le (h : TextList s ts t) : t.length ≤ s.length := by
  cases h with
  | intro items => exact Nat.le_succ_of_le items.length_le

theorem TextList.readTextList (h : TextList s₁ ts t) (before : Blanks s s₁) :
    readTextList s = .ok (ts, t) := by
  cases h with
  | intro items =>
      rw [Json.readTextList, before.skipBlanks rfl]
      simp only [if_true, items.readTextItems (Nat.lt_succ_self _), ok_bind]
      rfl

end DocWire.Json

import DocWire.Proofs.Json.Tokens

/-! A value of the grammar is passed over to its end. The containers that are open are a stack of
their own, and the steps do not run out because no more than two are taken for a byte. -/

namespace DocWire.Json

variable {s s₁ t : Bytes} {b : UInt8} {c : Container} {cs : List Container} {p : Part}
  {steps : Nat} {first : Bool}

theorem Unsigned.front (h : Unsigned s t) : ∃ b r d, s = b :: r ∧ digit? b = some d := by
  cases h with
  | intro whole fraction exponent => exact whole.front

theorem closing_ne_of_digit {d : Nat} (h : digit? b = some d) (c : Container) : b ≠ c.closing :=
  ne_of_digit h (by cases c <;> rfl)

/-- No value begins with a blank or with what closes a container. -/
theorem Begins.front (h : Begins .value s t) :
    ∃ b r, s = b :: r ∧ skipBlanks s = s ∧ ∀ c : Container, b ≠ c.closing := by
  cases h with
  | null s => exact ⟨byte 'n', _, rfl, rfl, fun c => by cases c <;> decide⟩
  | yes s => exact ⟨byte 't', _, rfl, rfl, fun c => by cases c <;> decide⟩
  | no s => exact ⟨byte 'f', _, rfl, rfl, fun c => by cases c <;> decide⟩
  | number number =>
      obtain ⟨b, r, d, rfl, hDigit⟩ := number.front
      exact ⟨b, r, rfl, skipBlanks_of_digit hDigit r, closing_ne_of_digit hDigit⟩
  | negative number => exact ⟨byte '-', _, rfl, rfl, fun c => by cases c <;> decide⟩
  | string inside => exact ⟨byte '"', _, rfl, rfl, fun c => by cases c <;> decide⟩
  | @container c s t rest =>
      exact ⟨c.opening, s, rfl, by cases c <;> rfl, fun d => by cases c <;> cases d <;> decide⟩

theorem Begins.entry_front (h : Begins (.entry c) s t) :
    ∃ b r, skipBlanks s = b :: r ∧ b ≠ c.closing := by
  cases h with
  | item before value =>
      obtain ⟨b, r, rfl, hSkipped, hOpen⟩ := value.front
      exact ⟨b, r, before.skipBlanks_eq.trans hSkipped, hOpen .list⟩
  | member before name colon after value =>
      exact ⟨byte '"', _, before.skipBlanks rfl, by decide⟩

theorem skipRest_nil (steps : Nat) (afterItem : Bool) (s : Bytes) :
    skipRest steps afterItem [] s = .ok s := by
  cases steps <;> rfl

theorem skipValue_of_skipBlanks_eq (h : skipBlanks s = skipBlanks t) :
    skipValue (steps + 1) cs s = skipValue (steps + 1) cs t := by
  rw [skipValue, skipValue, h]

theorem skipValue_of_digit {d : Nat} (h : digit? b = some d) :
    skipValue (steps + 1) cs (b :: s) = skipNumber (b :: s) >>= skipRest steps true cs := by
  have hList := ne_of_digit h (c := byte '[') rfl
  have hObject := ne_of_digit h (c := byte '\x7b') rfl
  have hNull := ne_of_digit h (c := byte 'n') rfl
  have hTrue := ne_of_digit h (c := byte 't') rfl
  have hFalse := ne_of_digit h (c := byte 'f') rfl
  have hMinus := ne_of_digit h (c := byte '-') rfl
  rw [skipValue, skipBlanks_of_digit h]
  simp only [if_neg hList, if_neg hObject, if_neg hNull, if_neg hTrue, if_neg hFalse,
    if_neg hMinus, h, Option.isSome_some, if_true]

theorem Inside.skipName {s₂ : Bytes} (h : Inside s₁ s₂) (before : Blanks s (byte '"' :: s₁))
    (colon : Blanks s₂ (byte ':' :: t)) : Container.object.skipName s = .ok t := by
  rw [Container.skipName, before.skipBlanks rfl]
  simp only [ne_eq, not_true, if_false, h.skipString (Nat.lt_succ_self _), ok_bind]
  rw [colon.skipBlanks rfl]
  rfl

/-- A container is left where it is closed. -/
theorem skipRest_of_closing (close : Blanks s (c.closing :: t)) (afterItem : Bool) :
    skipRest (steps + 1) afterItem (c :: cs) s = skipRest steps true cs t := by
  rw [skipRest, close.skipBlanks (by cases c <;> rfl)]
  simp only [if_true]

/-- A container that is not closed holds another item or member, the first one or one behind a
comma. -/
theorem skipRest_of_separated (front : Separated first s s₁) (h : skipBlanks s₁ = b :: t)
    (hOpen : b ≠ c.closing) :
    skipRest (steps + 1 + 1) (!first) (c :: cs) s =
      c.skipName s₁ >>= skipValue (steps + 1) (c :: cs) := by
  cases front with
  | first =>
      rw [skipRest, h]
      simp only [if_neg hOpen, Bool.not_true, Bool.false_and, Bool.false_eq_true, if_false]
      rw [← h]
      cases c with
      | list => exact skipValue_of_skipBlanks_eq (skipBlanks_skipBlanks s)
      | object => simp only [Container.skipName, skipBlanks_skipBlanks]
  | comma comma =>
      have hComma : byte ',' ≠ c.closing := by cases c <;> decide
      rw [skipRest, comma.skipBlanks rfl]
      simp only [if_neg hComma, Bool.not_false, ne_eq, not_true, decide_false, Bool.and_false,
        Bool.false_eq_true, if_false, if_true]

/-- What passing over a part of a text in `k + 1` steps comes to, inside open containers: what is
left of them is passed over next. -/
def Part.Passed (k : Nat) (s t : Bytes) : Part → Prop
  | .value => ∀ steps cs, Stops t → skipValue (steps + k + 1) cs s = skipRest steps true cs t
  | .entry c => ∀ steps cs, Stops t →
      (c.skipName s >>= skipValue (steps + k + 1) (c :: cs)) = skipRest steps true (c :: cs) t
  | .rest c first => ∀ steps cs,
      skipRest (steps + k + 1) (!first) (c :: cs) s = skipRest steps true cs t

/-- How many bytes `k + 1` steps take at least: what is left of a container takes two steps for a
byte, and a value or an entry one step less. -/
def Part.Takes (k : Nat) (s t : Bytes) : Part → Prop
  | .value => k + 2 + 2 * t.length ≤ 2 * s.length
  | .entry _ => k + 2 + 2 * t.length ≤ 2 * s.length
  | .rest _ _ => k + 1 + 2 * t.length ≤ 2 * s.length

/-- Behind an entry stands a comma or what closes the container. -/
theorem Begins.stops (h : Begins (.rest c false) s t) : Stops s := by
  cases h with
  | close close => exact close.stops (by cases c <;> decide)
  | more front entry rest =>
      cases front with
      | comma comma => exact comma.stops (by simp)

/-- Every part of a text is passed over. The steps of its parts add up, and a container's own steps
are paid for by the bytes that open, separate and close it. -/
theorem Begins.passed (h : Begins p s t) : ∃ k, p.Takes k s t ∧ p.Passed k s t := by
  induction h with
  | null s => exact ⟨0, by simp [Part.Takes]; omega, fun steps cs _ => rfl⟩
  | yes s => exact ⟨0, by simp [Part.Takes]; omega, fun steps cs _ => rfl⟩
  | no s => exact ⟨0, by simp [Part.Takes]; omega, fun steps cs _ => rfl⟩
  | number number =>
      have hLess := number.length_lt
      obtain ⟨b, r, d, rfl, hDigit⟩ := number.front
      refine ⟨0, by rw [Part.Takes]; omega, fun steps cs hStops => ?_⟩
      rw [Nat.add_zero, skipValue_of_digit hDigit, number.skipNumber hStops, ok_bind]
  | @negative s t number =>
      have hLess := number.length_lt
      refine ⟨0, by rw [Part.Takes, List.length_cons]; omega, fun steps cs hStops => ?_⟩
      have hFirst : skipValue (steps + 1) cs (byte '-' :: s) =
        skipNumber s >>= skipRest steps true cs := rfl
      rw [Nat.add_zero, hFirst, number.skipNumber hStops, ok_bind]
  | @string s t inside =>
      have hLess := inside.length_lt
      refine ⟨0, by rw [Part.Takes, List.length_cons]; omega, fun steps cs _ => ?_⟩
      have hFirst : skipValue (steps + 1) cs (byte '"' :: s) =
        skipString (s.length + 1) s >>= skipRest steps true cs := rfl
      rw [Nat.add_zero, hFirst, inside.skipString (Nat.lt_succ_self _), ok_bind]
  | @container c s t rest ih =>
      obtain ⟨k, hTakes, hPassed⟩ := ih
      rw [Part.Takes] at hTakes
      refine ⟨k + 1, by rw [Part.Takes, List.length_cons]; omega, fun steps cs _ => ?_⟩
      have hFirst : skipValue (steps + (k + 1) + 1) cs (c.opening :: s) =
        skipRest (steps + k + 1) false (c :: cs) s := by cases c <;> rfl
      rw [hFirst]
      exact hPassed steps cs
  | item before value ih =>
      obtain ⟨k, hTakes, hPassed⟩ := ih
      have hBefore := before.length_le
      rw [Part.Takes] at hTakes
      refine ⟨k, by rw [Part.Takes]; omega, fun steps cs hStops => ?_⟩
      rw [← hPassed steps _ hStops]
      exact skipValue_of_skipBlanks_eq before.skipBlanks_eq
  | member before name colon after value ih =>
      obtain ⟨k, hTakes, hPassed⟩ := ih
      have hBefore := before.length_le
      have hName := name.length_lt
      have hColon := colon.length_le
      have hAfter := after.length_le
      simp only [List.length_cons] at hBefore hColon
      rw [Part.Takes] at hTakes
      refine ⟨k, by rw [Part.Takes]; omega, fun steps cs hStops => ?_⟩
      rw [name.skipName before colon, ok_bind, ← hPassed steps _ hStops]
      exact skipValue_of_skipBlanks_eq after.skipBlanks_eq
  | close close =>
      have hClose := close.length_le
      rw [List.length_cons] at hClose
      exact ⟨0, by rw [Part.Takes]; omega, fun steps cs => skipRest_of_closing close _⟩
  | more front entry rest ih ihRest =>
      obtain ⟨k, hTakes, hPassed⟩ := ih
      obtain ⟨m, hTakesRest, hPassedRest⟩ := ihRest
      obtain ⟨b, r, hFront, hOpen⟩ := entry.entry_front
      have hSeparated := front.length_le
      simp only [Part.Takes] at hTakes hTakesRest
      refine ⟨k + m + 2, by rw [Part.Takes]; omega, fun steps cs => ?_⟩
      have hSteps : steps + (k + m + 2) + 1 = steps + m + 1 + k + 1 + 1 := by omega
      rw [hSteps, skipRest_of_separated front hFront hOpen,
        hPassed (steps + m + 1) cs rest.stops]
      exact hPassedRest steps cs

/-- A value is passed over if what follows does not continue a number. -/
theorem Begins.skip (h : Begins .value s₁ t) (before : Blanks s s₁) (hStops : Stops t) :
    skip s = .ok t := by
  obtain ⟨k, hTakes, hPassed⟩ := h.passed
  have hBefore := before.length_le
  have hSteps : 3 * s.length + 3 = 3 * s.length + 2 - k + k + 1 := by
    rw [Part.Takes] at hTakes
    omega
  rw [Json.skip, hSteps, skipValue_of_skipBlanks_eq before.skipBlanks_eq, hPassed _ _ hStops,
    skipRest_nil]

theorem Begins.length_lt (h : Begins .value s t) : t.length < s.length := by
  obtain ⟨k, hTakes, -⟩ := h.passed
  rw [Part.Takes] at hTakes
  omega

end DocWire.Json

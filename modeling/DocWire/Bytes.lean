/-! What travels between the client and a server. The space is the only delimiter of the wire
format, so every reader of a frame splits at the first one. -/

namespace DocWire

abbrev Bytes := List UInt8

namespace Bytes

/-- The delimiter of the wire format. -/
def space : UInt8 := 0x20

/-- The bytes before the first space and those after it, if there is one. -/
def splitAtSpace? : Bytes → Option (Bytes × Bytes)
  | [] => none
  | b :: s =>
    if b = space then some ([], s)
    else (splitAtSpace? s).map fun (before, after) => (b :: before, after)

/-- Splitting takes nothing but the space away. -/
theorem eq_of_splitAtSpace? {s before after : Bytes} (h : s.splitAtSpace? = some (before, after)) :
    s = before ++ space :: after := by
  induction s generalizing before with
  | nil => simp [splitAtSpace?] at h
  | cons b s ih =>
    by_cases hb : b = space
    · simp_all [splitAtSpace?]
    · simp only [splitAtSpace?, hb, if_false, Option.map_eq_some_iff] at h
      obtain ⟨⟨x, y⟩, hs, hxy⟩ := h
      injection hxy with hx hy
      subst hx hy
      rw [ih hs, List.cons_append]

theorem splitAtSpace?_append {before after : Bytes} (h : space ∉ before) :
    splitAtSpace? (before ++ space :: after) = some (before, after) := by
  induction before with
  | nil => simp [splitAtSpace?]
  | cons b s ih =>
    have hb : b ≠ space := fun e => h (e ▸ List.mem_cons_self ..)
    simp [splitAtSpace?, hb, ih fun e => h (List.mem_cons_of_mem _ e)]

theorem notMem_of_splitAtSpace? {s before after : Bytes}
    (h : s.splitAtSpace? = some (before, after)) : space ∉ before := by
  induction s generalizing before with
  | nil => simp [splitAtSpace?] at h
  | cons b s ih =>
    by_cases hb : b = space
    · simp_all [splitAtSpace?]
    · simp only [splitAtSpace?, hb, if_false, Option.map_eq_some_iff] at h
      obtain ⟨⟨x, y⟩, hs, hxy⟩ := h
      injection hxy with hx hy
      subst hx hy
      simpa [Ne.symm hb] using ih hs

/-- A byte string has one splitting, if it has any. -/
theorem splitAtSpace?_eq_some_iff {s before after : Bytes} :
    s.splitAtSpace? = some (before, after) ↔ s = before ++ space :: after ∧ space ∉ before :=
  ⟨fun h => ⟨eq_of_splitAtSpace? h, notMem_of_splitAtSpace? h⟩,
    fun h => h.1 ▸ splitAtSpace?_append h.2⟩

theorem splitAtSpace?_eq_none_iff {s : Bytes} : s.splitAtSpace? = none ↔ space ∉ s := by
  induction s with
  | nil => simp [splitAtSpace?]
  | cons b s ih =>
    by_cases hb : b = space
    · simp [splitAtSpace?, hb]
    · simp [splitAtSpace?, hb, ih, Ne.symm hb]

/-- The bytes without the spaces in front. -/
def dropSpaces (s : Bytes) : Bytes :=
  s.dropWhile (· = space)

theorem length_dropSpaces_le (s : Bytes) : s.dropSpaces.length ≤ s.length :=
  (List.dropWhile_suffix _).length_le

/-- The bytes in pieces of `size`, the last one perhaps shorter; a size of zero counts as one. -/
def pieces (size : Nat) : Bytes → List Bytes
  | [] => []
  | b :: s => (b :: s.take (size - 1)) :: pieces size (s.drop (size - 1))
termination_by s => s.length
decreasing_by simp only [List.length_drop, List.length_cons]; omega

/-- Cutting into pieces loses nothing. -/
theorem flatten_pieces (size : Nat) (s : Bytes) : (s.pieces size).flatten = s := by
  fun_induction pieces size s with
  | case1 => rfl
  | case2 b s ih => rw [List.flatten_cons, ih, List.cons_append, List.take_append_drop]

end Bytes

end DocWire

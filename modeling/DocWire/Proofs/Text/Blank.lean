import DocWire.Text.Blank
import Mathlib.Data.List.DropRight
import Mathlib.Data.List.TakeDrop

namespace DocWire.Text

/-- The text `s` is `t` between blanks, and `t` neither begins nor ends with one. -/
structure Trims (s t : String) : Prop where
  split : ∃ front back : List Char, s.toList = front ++ (t.toList ++ back) ∧
    (∀ c ∈ front, isBlank c = true) ∧ (∀ c ∈ back, isBlank c = true)
  first : ∀ c ∈ t.toList.head?, isBlank c = false
  last : ∀ c ∈ t.toList.getLast?, isBlank c = false

variable {s t : String}

theorem trims_trim (s : String) : Trims s (trim s) := by
  have hTrim : (trim s).toList = (s.toList.dropWhile isBlank).rdropWhile isBlank :=
    String.toList_ofList
  refine ⟨⟨s.toList.takeWhile isBlank, (s.toList.dropWhile isBlank).rtakeWhile isBlank, ?_,
    fun c => List.mem_takeWhile_imp, fun c => List.mem_rtakeWhile_imp⟩, ?_, ?_⟩
  · rw [hTrim, List.rdropWhile_append_rtakeWhile, List.takeWhile_append_dropWhile]
  · intro c hFirst
    rw [hTrim] at hFirst
    obtain ⟨back, hBack⟩ := List.rdropWhile_prefix isBlank (s.toList.dropWhile isBlank)
    have hHead : (s.toList.dropWhile isBlank).head? = some c := by
      rw [← hBack, List.head?_append, hFirst]
      rfl
    have hStopped := List.head?_dropWhile_not isBlank s.toList
    rw [hHead] at hStopped
    exact hStopped
  · intro c hLast
    rw [hTrim] at hLast
    obtain ⟨hSome, rfl⟩ := List.mem_getLast?_eq_getLast hLast
    exact Bool.eq_false_iff.2 (List.rdropWhile_last_not isBlank _ hSome)

theorem Trims.rdropWhile_eq (h : Trims s t) {back : List Char}
    (hBack : ∀ c ∈ back, isBlank c = true) :
    (t.toList ++ back).rdropWhile isBlank = t.toList := by
  have hKept : t.toList.rdropWhile isBlank = t.toList := by
    rw [List.rdropWhile_eq_self_iff]
    intro hSome
    simp [h.last _ (List.getLast?_eq_getLast_of_ne_nil hSome)]
  rw [← hKept, List.rdropWhile, List.reverse_append,
    List.dropWhile_append_of_pos fun c hMem => hBack c (List.mem_reverse.1 hMem), hKept,
    ← List.rdropWhile, hKept]

/-- The blanks in front are dropped up to the text, and all of them if there is none. -/
theorem Trims.dropWhile_eq (h : Trims s t) {back : List Char}
    (hBack : ∀ c ∈ back, isBlank c = true) :
    ((t.toList ++ back).dropWhile isBlank).rdropWhile isBlank = t.toList := by
  have hEnd := h.rdropWhile_eq hBack
  have hFirst := h.first
  cases hText : t.toList with
  | nil => rw [List.nil_append, List.dropWhile_eq_nil_iff.2 hBack, List.rdropWhile_nil]
  | cons c cs =>
      rw [hText] at hEnd hFirst
      rw [List.cons_append, List.dropWhile_cons_of_neg (by simp [hFirst c rfl]), ← List.cons_append,
        hEnd]

theorem Trims.trim_eq (h : Trims s t) : trim s = t := by
  obtain ⟨front, back, hSplit, hFront, hBack⟩ := h.split
  have hDropped : s.toList.dropWhile isBlank = (t.toList ++ back).dropWhile isBlank := by
    rw [hSplit, List.dropWhile_append_of_pos hFront]
  have hTrimmed : trim s = String.ofList ((s.toList.dropWhile isBlank).rdropWhile isBlank) := rfl
  rw [hTrimmed, hDropped, h.dropWhile_eq hBack, String.ofList_toList]

theorem trims_iff : Trims s t ↔ trim s = t := by
  refine ⟨Trims.trim_eq, ?_⟩
  rintro rfl
  exact trims_trim s

end DocWire.Text

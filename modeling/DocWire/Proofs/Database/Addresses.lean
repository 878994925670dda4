import DocWire.Proofs.Database
import DocWire.Proofs.Target.Segments
import Mathlib.Control.Monad.Basic

/-! Two calls have the same target exactly if the same is kept of their components: ids that differ
in nothing but tabs and line breaks are one id to the server. -/

namespace DocWire

namespace Target

theorem eq_text_of_build {components : List String} {target : String}
    (h : build components = .ok target) : target = text (pathOf components) := by
  unfold build at h
  split at h
  · cases h
  · exact (Except.ok.inj h).symm

theorem kept_eq_of_climbs {a b : String} (ha : Climbs a) (hb : Climbs b) : kept a = kept b :=
  (climbs_iff_kept.1 ha).trans (climbs_iff_kept.1 hb).symm

theorem kept_ne_of_climbs {a b : String} (ha : Climbs a) (hb : ¬ Climbs b) : kept a ≠ kept b := by
  intro h
  rw [climbs_iff_kept] at ha hb
  exact hb (h ▸ ha)

end Target

namespace DatabaseCall

open Target

variable {what what' : DatabaseCall} {name name' : String}

theorem place_cases (what : DatabaseCall) :
    what.place = ["docs"] ∨ what.place = ["schema"] ∨ ∃ docid, what.place = ["docs", docid] := by
  cases what with
  | insert doc => exact Or.inl rfl
  | get docid => exact Or.inr (Or.inr ⟨docid, rfl⟩)
  | delete docid => exact Or.inr (Or.inr ⟨docid, rfl⟩)
  | schema => exact Or.inr (Or.inl rfl)
  | setSchema newSchema => exact Or.inr (Or.inl rfl)

/-- The segments of a place in a database. An id that climbs takes the word before it away. -/
def trail : List String → List String
  | [word, docid] => if Climbs docid then [""] else [word, segment docid]
  | place => place

@[simp] theorem trail_word (word : String) : trail [word] = [word] := rfl

theorem trail_docid (word docid : String) :
    trail [word, docid] = if Climbs docid then [""] else [word, segment docid] := rfl

/-- The segments of a call's target. A name that climbs takes the word before it away. -/
def segments (what : DatabaseCall) (name : String) : List String :=
  if Climbs name then trail what.place else "db" :: segment name :: trail what.place

theorem append_word {path : List String} (word : String) (h : word ∈ words) :
    append path (escape word) = below path ++ [word] := by
  rw [append_escape (not_climbs_of_mem_words h), segment_of_mem_words h]

/-- Behind any front, a call adds the segments of its place. -/
theorem foldl_place (what : DatabaseCall) (path : List String) :
    what.place.foldl (fun path c => append path (escape c)) path =
      below path ++ trail what.place := by
  rcases what.place_cases with hPlace | hPlace | ⟨docid, hPlace⟩ <;> rw [hPlace]
  · exact append_word "docs" (by decide)
  · exact append_word "schema" (by decide)
  · have hDocs : append path (escape "docs") = below path ++ ["docs"] :=
      append_word "docs" (by decide)
    have hBelow : below (below path ++ ["docs"]) = below path ++ ["docs"] := by
      apply if_neg
      intro hRoot
      have hLast := congrArg List.getLast? hRoot
      simp at hLast
    rw [List.foldl_cons, List.foldl_cons, List.foldl_nil, hDocs, trail_docid]
    by_cases hClimbs : Climbs docid
    · have hLeave : leave (below path ++ ["docs"]) = below path := by
        simp [leave, isDrive]
      rw [if_pos hClimbs, escape_eq_dots_iff.2 hClimbs, append_eq, hBelow, hLeave]
      rfl
    · rw [if_neg hClimbs, append_escape hClimbs, hBelow, List.append_assoc]
      rfl

theorem pathOf_components (what : DatabaseCall) (name : String) :
    pathOf (what.components name) = what.segments name := by
  have hDb : append [""] (escape "db") = ["db"] := append_word "db" (by decide)
  rw [pathOf, components, List.foldl_cons, List.foldl_cons, foldl_place, hDb, segments]
  by_cases hClimbs : Climbs name
  · rw [if_pos hClimbs, escape_eq_dots_iff.2 hClimbs]
    rfl
  · rw [if_neg hClimbs, append_escape hClimbs]
    rfl

theorem kept_of_mem_words {word : String} (h : word ∈ words) : kept word = word.toList := by
  revert word
  decide

/-- The segments of two places are the same exactly if the same is kept of the places. -/
theorem trail_inj :
    trail what.place = trail what'.place ↔ what.place.map kept = what'.place.map kept := by
  have hDocs : kept "docs" = "docs".toList := kept_of_mem_words (by decide)
  have hSchema : kept "schema" = "schema".toList := kept_of_mem_words (by decide)
  have hWord (word docid : String) (hNe : word ≠ "") : [word] ≠ trail ["docs", docid] := by
    rw [trail_docid]
    split <;> simp [hNe]
  rcases what.place_cases with h | h | ⟨docid, h⟩ <;>
    rcases what'.place_cases with h' | h' | ⟨docid', h'⟩ <;> rw [h, h']
  · simp
  · simp [hDocs, hSchema]
  · simpa using hWord "docs" docid' (by decide)
  · simp [hDocs, hSchema]
  · simp
  · simpa using hWord "schema" docid' (by decide)
  · simpa using (hWord "docs" docid (by decide)).symm
  · simpa using (hWord "schema" docid (by decide)).symm
  · simp only [List.map_cons, List.map_nil, List.cons.injEq, true_and, and_true, trail_docid]
    by_cases hc : Climbs docid <;> by_cases hc' : Climbs docid'
    · simp [hc, hc', kept_eq_of_climbs hc hc']
    · simp [hc, hc', kept_ne_of_climbs hc hc']
    · simp [hc, hc', (kept_ne_of_climbs hc' hc).symm]
    · simp [hc, hc', segment_inj]

theorem head?_trail (what : DatabaseCall) : (trail what.place).head? ≠ some "db" := by
  rcases what.place_cases with h | h | ⟨docid, h⟩ <;> rw [h]
  · decide
  · decide
  · rw [trail_docid]
    split <;> simp

theorem segments_inj :
    what.segments name = what'.segments name' ↔
      (what.components name).map kept = (what'.components name').map kept := by
  have hDb {what : DatabaseCall} {rest : List String} : trail what.place ≠ "db" :: rest := by
    intro h
    exact what.head?_trail (congrArg List.head? h)
  simp only [components, List.map_cons, List.cons.injEq, true_and, segments]
  by_cases hc : Climbs name <;> by_cases hc' : Climbs name'
  · simp [hc, hc', kept_eq_of_climbs hc hc', trail_inj]
  · simp [hc, hc', kept_ne_of_climbs hc hc', hDb]
  · simp [hc, hc', (kept_ne_of_climbs hc' hc).symm, hDb.symm]
  · simp [hc, hc', segment_inj, trail_inj]

theorem segments_ne_nil (what : DatabaseCall) (name : String) : what.segments name ≠ [] := by
  have hTrail : trail what.place ≠ [] := by
    rcases what.place_cases with h | h | ⟨docid, h⟩ <;> rw [h]
    · decide
    · decide
    · rw [trail_docid]
      split <;> simp
  unfold segments
  split
  · exact hTrail
  · exact List.cons_ne_nil _ _

theorem slash_notMem_segments (what : DatabaseCall) (name : String) :
    ∀ s ∈ what.segments name, '/' ∉ s.toList := by
  intro s hs hSlash
  rw [← pathOf_components] at hs
  exact (mem_of_mem_pathOf hs hSlash).2.2 rfl

/-- No slash is dropped in front of a target. -/
theorem text_segments (what : DatabaseCall) (name : String) :
    text (what.segments name) = "/".intercalate (what.segments name) := by
  have hDocs (rest : List String) : text ("docs" :: rest) = "/".intercalate ("docs" :: rest) :=
    text_eq_intercalate (show "docs".toList = 'd' :: ['o', 'c', 's'] from rfl) (by decide)
  unfold segments
  split
  next hClimbs =>
    rcases what.place_cases with h | h | ⟨docid, h⟩ <;> rw [h]
    · exact hDocs []
    · exact text_eq_intercalate
        (show "schema".toList = 's' :: ['c', 'h', 'e', 'm', 'a'] from rfl) (by decide)
    · rw [trail_docid]
      split
      · rfl
      · exact hDocs _
  next hClimbs => exact text_eq_intercalate (show "db".toList = 'd' :: ['b'] from rfl) (by decide)

/-- The components of a call are `db`, the name of the database, and `docs`, or `docs` and an id, or
`schema`. If the targets of two calls can be built, they are the same exactly if the same is kept of
the components. -/
theorem targets_eq_iff_kept {what what' : DatabaseCall} {name name' target target' : String}
    (h : build (what.components name) = .ok target)
    (h' : build (what'.components name') = .ok target') :
    target = target' ↔ (what.components name).map kept = (what'.components name').map kept := by
  rw [eq_text_of_build h, eq_text_of_build h', pathOf_components, pathOf_components, text_segments,
    text_segments, intercalate_inj (what.segments_ne_nil name) (what'.segments_ne_nil name')
      (what.slash_notMem_segments name) (what'.slash_notMem_segments name'), segments_inj]

/-- An id with a slash and the id that is its escaped form have different targets. -/
theorem targets_ne_of_escaped :
    build ((get "a/b").components "my db") = .ok "db/my%20db/docs/a%2Fb" ∧
      build ((get "a%2Fb").components "my db") = .ok "db/my%20db/docs/a%252Fb" ∧
      "db/my%20db/docs/a%2Fb" ≠ "db/my%20db/docs/a%252Fb" := by
  have h : build ((get "a/b").components "my db") = .ok "db/my%20db/docs/a%2Fb" := by
    decide +kernel
  have h' : build ((get "a%2Fb").components "my db") = .ok "db/my%20db/docs/a%252Fb" := by
    decide +kernel
  refine ⟨h, h', ?_⟩
  rw [Ne, targets_eq_iff_kept h h']
  decide +kernel

/-- Two ids, of which one has a tab at its end, have the same target. -/
theorem target_eq_of_tab :
    "a\t" ≠ "a" ∧ build ((get "a\t").components "x") = .ok "db/x/docs/a" ∧
      build ((get "a").components "x") = .ok "db/x/docs/a" := by
  refine ⟨by decide, ?_, ?_⟩ <;> decide +kernel

end DatabaseCall

end DocWire

import DocWire.Proofs.Text.Utf8
import DocWire.Target

/-! Escaping leaves no space and no slash. A component adds one segment of its own, unless it turns
into two dots when tabs and line breaks are dropped from it. -/

namespace DocWire.Target

/-- A byte that stands for itself is printable, and it is no slash. -/
theorem toNat_of_isLiteral {b : UInt8} (h : isLiteral b = true) :
    0x20 < b.toNat ∧ b.toNat < 0x7F ∧ b.toNat ≠ 0x2F := by
  simp only [isLiteral, Bool.and_eq_true, decide_eq_true_eq, Bool.not_eq_true',
    List.any_eq_false, UInt8.le_iff_toNat_le] at h
  obtain ⟨⟨hLow, hHigh⟩, hOthers⟩ := h
  have hSlash := hOthers '/' (by decide)
  exact ⟨hLow, Nat.lt_succ_of_le hHigh, fun hb => hSlash hb.symm⟩

theorem hexDigit_of_lt {d : Nat} (h : d < 16) :
    0x20 < (hexDigit d).toNat ∧ (hexDigit d).toNat < 0x7F ∧ hexDigit d ≠ '/' := by
  revert d
  decide

/-- A byte is escaped with printable characters other than the slash. -/
theorem mem_escapeByte {b : UInt8} {c : Char} (h : c ∈ escapeByte b) :
    0x20 < c.toNat ∧ c.toNat < 0x7F ∧ c ≠ '/' := by
  have hByte := b.toNat_lt
  unfold escapeByte at h
  split at h
  next hLiteral =>
    obtain rfl := List.mem_singleton.1 h
    obtain ⟨hLow, hHigh, hSlash⟩ := toNat_of_isLiteral hLiteral
    have hCode := Utf8.toNat_ofNat (Or.inl (show b.toNat < 0xD800 by omega))
    rw [hCode]
    refine ⟨hLow, hHigh, ?_⟩
    intro hc
    exact hSlash (hCode.symm.trans (congrArg Char.toNat hc))
  next hLiteral =>
    simp only [List.mem_cons, List.not_mem_nil, or_false] at h
    rcases h with rfl | rfl | rfl
    · decide
    · exact hexDigit_of_lt (by omega)
    · exact hexDigit_of_lt (Nat.mod_lt _ (by decide))

theorem mem_escape {component : String} {c : Char} (h : c ∈ (escape component).toList) :
    0x20 < c.toNat ∧ c.toNat < 0x7F ∧ c ≠ '/' := by
  rw [escape, String.toList_ofList, List.mem_flatMap] at h
  obtain ⟨b, -, hb⟩ := h
  exact mem_escapeByte hb

/-- Where one element stands for itself and no other image begins with it, a repetition comes from
a repetition. -/
theorem flatMap_eq_replicate_iff {α β : Type} {f : α → List β} {a : α} {b : β} (hSame : f a = [b])
    (hOther : ∀ x, x ≠ a → f x ≠ [] ∧ (f x).head? ≠ some b) {s : List α} {n : Nat} :
    s.flatMap f = List.replicate n b ↔ s = List.replicate n a := by
  induction s generalizing n with
  | nil => cases n <;> simp
  | cons x s ih =>
      by_cases hx : x = a
      · cases n with
        | zero => simp [hx, hSame]
        | succ n => simp [hx, hSame, List.replicate_succ, ih]
      · obtain ⟨hNe, hHead⟩ := hOther x hx
        obtain ⟨y, ys, hy⟩ := List.exists_cons_of_ne_nil hNe
        cases n with
        | zero => simp [hy]
        | succ n =>
            have hyb : y ≠ b := by simpa [hy] using hHead
            simp [hy, hx, hyb, List.replicate_succ]

theorem head?_escapeByte {b : UInt8} (h : b ≠ 0x2E) :
    escapeByte b ≠ [] ∧ (escapeByte b).head? ≠ some '.' := by
  unfold escapeByte
  split
  next hLiteral =>
    obtain ⟨-, hHigh, -⟩ := toNat_of_isLiteral hLiteral
    refine ⟨List.cons_ne_nil _ _, ?_⟩
    intro hDot
    have hCode := Utf8.toNat_ofNat (Or.inl (show b.toNat < 0xD800 by omega))
    rw [Option.some.inj hDot] at hCode
    exact h (UInt8.toNat_inj.1 hCode.symm)
  next hLiteral => simp

theorem head?_encodeChar {c : Char} (h : c ≠ '.') :
    Utf8.encodeChar c ≠ [] ∧ (Utf8.encodeChar c).head? ≠ some 0x2E := by
  obtain ⟨b, bs, hBytes, hScan⟩ := Utf8.scan_encodeChar c []
  rw [hBytes]
  refine ⟨by simp, ?_⟩
  intro hDot
  obtain rfl : b = 0x2E := Option.some.inj hDot
  have hChar : Utf8.scan 0x2E (bs ++ []) = .char '.' 0 := rfl
  rw [hChar] at hScan
  exact h (Utf8.Scan.char.inj hScan).1.symm

/-- A component is escaped to dots only if it consists of as many dots once what is dropped is
gone. -/
theorem toList_escape_eq_replicate_iff {component : String} {n : Nat} :
    (escape component).toList = List.replicate n '.' ↔
      component.toList.filter (!isDropped ·) = List.replicate n '.' := by
  rw [escape, String.toList_ofList, flatMap_eq_replicate_iff (a := (0x2E : UInt8)) (by decide)
    (fun _ => head?_escapeByte), flatMap_eq_replicate_iff (a := '.') (by decide)
    (fun _ => head?_encodeChar)]

/-- The component turns into two dots when tabs and line breaks are dropped from it. -/
def Climbs (component : String) : Prop :=
  component.toList.filter (!isDropped ·) = ['.', '.']

instance : DecidablePred Climbs := fun component =>
  inferInstanceAs (Decidable (component.toList.filter (!isDropped ·) = ['.', '.']))

theorem escape_eq_dots_iff {component : String} : escape component = ".." ↔ Climbs component := by
  rw [← String.toList_inj]
  exact toList_escape_eq_replicate_iff (n := 2)

/-- The segment that a component adds to a path. That of a single dot is empty. -/
def segment (component : String) : String :=
  if escape component = "." then "" else escape component

/-- A segment that is one place of its own: no slash is in it, and it is not a dot segment. -/
structure IsPlain (segment : String) : Prop where
  noSlash : '/' ∉ segment.toList
  noDot : isDot segment = false

theorem isPlain_segment {component : String} (h : ¬ Climbs component) :
    IsPlain (segment component) := by
  rw [← escape_eq_dots_iff] at h
  unfold segment
  split
  next hDot => exact ⟨by simp, rfl⟩
  next hDot => exact ⟨fun hSlash => (mem_escape hSlash).2.2 rfl, by simp [isDot, hDot, h]⟩

variable {path components rest : List String} {first last s component : String}

/-- The segments of a path below the root. -/
def below (path : List String) : List String :=
  if path = [""] then [] else path

/-- How deep a path leads. -/
def depth (path : List String) : Nat :=
  (below path).length

theorem below_subset (path : List String) : below path ⊆ path := by
  unfold below
  split
  · exact List.nil_subset _
  · exact List.Subset.refl _

theorem depth_le_length (path : List String) : depth path ≤ path.length := by
  unfold depth below
  split
  · exact Nat.zero_le _
  · exact Nat.le_refl _

theorem leave_subset (path : List String) : leave path ⊆ path := by
  unfold leave
  split
  · exact List.nil_subset _
  · split
    · exact List.Subset.refl _
    · exact List.dropLast_subset _

theorem length_leave_le (path : List String) : (leave path).length ≤ path.length := by
  unfold leave
  split
  · exact Nat.zero_le _
  · split
    · exact Nat.le_refl _
    · exact List.length_dropLast ▸ Nat.sub_le ..

theorem append_eq (path : List String) (s : String) :
    append path s =
      if s = "." then below path ++ [""]
      else if s = ".." then leave (below path) ++ [""]
      else below path ++ [s] := rfl

theorem append_escape (h : ¬ Climbs component) :
    append path (escape component) = below path ++ [segment component] := by
  rw [← escape_eq_dots_iff] at h
  rw [append_eq, if_neg h, segment]
  split <;> rfl

theorem depth_append_le (path : List String) (s : String) :
    depth (append path s) ≤ depth path + 1 := by
  apply Nat.le_trans (depth_le_length _)
  have hLeave := length_leave_le (below path)
  rw [append_eq, depth]
  split
  · simp
  · split
    · simpa using hLeave
    · simp

theorem depth_foldl_le (path components : List String) :
    depth (components.foldl (fun path c => append path (escape c)) path) ≤
      depth path + components.length := by
  induction components generalizing path with
  | nil => exact Nat.le_refl _
  | cons c components ih =>
      have hStep := depth_append_le path (escape c)
      have hRest := ih (append path (escape c))
      rw [List.foldl_cons, List.length_cons]
      omega

/-- Two dots leave a path as deep as it was, unless it ends in a drive. -/
theorem depth_append_dots (h : isDrive last = false) :
    depth (append (path ++ [last]) "..") ≤ depth (path ++ [last]) := by
  by_cases hRoot : path ++ [last] = [""]
  · rw [hRoot]
    decide
  · have hBelow : below (path ++ [last]) = path ++ [last] := if_neg hRoot
    have hLeave : leave (path ++ [last]) = path := by
      simp [leave, h]
    apply Nat.le_trans (depth_le_length _)
    simp [append_eq, depth, hBelow, hLeave]

/-- A component that climbs, behind one that does not and names no drive, makes the path less deep
than there are components. -/
theorem depth_pathOf_lt (front rest : List String) (hLast : ¬ Climbs last)
    (hDrive : isDrive (segment last) = false) (hClimbs : Climbs component) :
    depth (pathOf (front ++ last :: component :: rest)) <
      (front ++ last :: component :: rest).length := by
  have hFront := depth_foldl_le [""] front
  have hHere := depth_append_le (pathOf front) (escape last)
  have hUp : depth (append (append (pathOf front) (escape last)) (escape component)) ≤
      depth (append (pathOf front) (escape last)) := by
    rw [escape_eq_dots_iff.2 hClimbs, append_escape hLast]
    exact depth_append_dots hDrive
  have hRest := depth_foldl_le
    (append (append (pathOf front) (escape last)) (escape component)) rest
  have hZero : depth [""] = 0 := rfl
  simp only [pathOf, List.foldl_append, List.foldl_cons, List.length_append, List.length_cons] at *
  omega

theorem foldl_append_escape (hFirst : first ≠ "") (h : ∀ c ∈ components, ¬ Climbs c) :
    components.foldl (fun path c => append path (escape c)) (first :: path) =
      first :: path ++ components.map segment := by
  induction components generalizing path with
  | nil => simp
  | cons c components ih =>
      obtain ⟨hc, hRest⟩ := List.forall_mem_cons.1 h
      have hBelow : below (first :: path) = first :: path := by
        apply if_neg
        intro hRoot
        exact hFirst (List.cons.inj hRoot).1
      rw [List.foldl_cons, append_escape hc, hBelow, List.cons_append, ih hRest]
      simp

/-- Components that do not climb are the segments of their path, one after the other. -/
theorem pathOf_eq_map_segment (hFirst : segment first ≠ "")
    (h : ∀ c ∈ first :: components, ¬ Climbs c) :
    pathOf (first :: components) = (first :: components).map segment := by
  obtain ⟨hClimbs, hRest⟩ := List.forall_mem_cons.1 h
  rw [pathOf, List.foldl_cons, append_escape hClimbs]
  exact foldl_append_escape hFirst hRest

/-- A step keeps segments of the path and brings the new one or an empty one. -/
theorem append_subset (path : List String) (s : String) : append path s ⊆ "" :: s :: path := by
  have hAdd {p : List String} {x : String} (hp : p ⊆ path) (hx : x ∈ ["", s]) :
      p ++ [x] ⊆ "" :: s :: path := by
    apply List.append_subset.2
    refine ⟨fun _ h => List.mem_cons_of_mem _ (List.mem_cons_of_mem _ (hp h)), ?_⟩
    exact List.cons_subset.2 ⟨List.mem_append_left path hx, List.nil_subset _⟩
  have hBelow := below_subset path
  rw [append_eq]
  split
  · exact hAdd hBelow (by simp)
  · split
    · exact hAdd (List.Subset.trans (leave_subset _) hBelow) (by simp)
    · exact hAdd hBelow (by simp)

theorem foldl_append_subset {segments : List String} (hEmpty : "" ∈ segments)
    (hEscape : ∀ c ∈ components, escape c ∈ segments) (hPath : path ⊆ segments) :
    components.foldl (fun path c => append path (escape c)) path ⊆ segments := by
  induction components generalizing path with
  | nil => exact hPath
  | cons c components ih =>
      obtain ⟨hc, hRest⟩ := List.forall_mem_cons.1 hEscape
      apply ih hRest
      apply List.Subset.trans (append_subset path (escape c))
      exact List.cons_subset.2 ⟨hEmpty, List.cons_subset.2 ⟨hc, hPath⟩⟩

/-- A path has no segments but empty ones and escaped components. -/
theorem pathOf_subset (components : List String) :
    pathOf components ⊆ "" :: components.map escape := by
  apply foldl_append_subset (List.mem_cons_self ..)
  · intro c hc
    exact List.mem_cons_of_mem _ (List.mem_map_of_mem hc)
  · simp

theorem mem_of_mem_pathOf {c : Char} (hs : s ∈ pathOf components) (hc : c ∈ s.toList) :
    0x20 < c.toNat ∧ c.toNat < 0x7F ∧ c ≠ '/' := by
  rcases List.mem_cons.1 (pathOf_subset components hs) with rfl | hs
  · cases hc
  · obtain ⟨component, -, rfl⟩ := List.mem_map.1 hs
    exact mem_escape hc

theorem count_slash_intercalate (h : ∀ s ∈ first :: rest, '/' ∉ s.toList) :
    ("/".intercalate (first :: rest)).toList.count '/' = rest.length := by
  induction rest generalizing first with
  | nil =>
      rw [String.intercalate_singleton]
      exact List.count_eq_zero.2 (h first (List.mem_cons_self ..))
  | cons second rest ih =>
      obtain ⟨hFirst, hRest⟩ := List.forall_mem_cons.1 h
      have hSlash : "/".toList = ['/'] := rfl
      rw [String.intercalate_cons_cons, String.toList_append, String.toList_append,
        List.count_append, List.count_append, ih hRest, List.count_eq_zero.2 hFirst, hSlash,
        List.length_cons, List.count_singleton_self]
      omega

/-- Slashes in front are dropped, so that a path may have more segments than its text shows. -/
theorem count_slash_text_le {n : Nat} (h : ∀ s ∈ path, '/' ∉ s.toList)
    (hDepth : depth path ≤ n + 1) : (text path).toList.count '/' ≤ n := by
  rw [text, String.toList_ofList]
  apply Nat.le_trans ((List.dropWhile_sublist _).count_le '/')
  cases path with
  | nil => exact Nat.zero_le n
  | cons first rest =>
      rw [count_slash_intercalate h]
      by_cases hRoot : first :: rest = [""]
      · obtain ⟨-, rfl⟩ := List.cons.inj hRoot
        exact Nat.zero_le n
      · rw [depth, below, if_neg hRoot] at hDepth
        exact Nat.le_of_succ_le_succ hDepth

theorem mem_intercalate {c : Char} (h : c ∈ ("/".intercalate path).toList) :
    c = '/' ∨ ∃ s ∈ path, c ∈ s.toList := by
  induction path with
  | nil => cases h
  | cons first path ih =>
      cases path with
      | nil =>
          rw [String.intercalate_singleton] at h
          exact Or.inr ⟨first, List.mem_cons_self .., h⟩
      | cons second path =>
          rw [String.intercalate_cons_cons, String.toList_append, String.toList_append] at h
          rcases List.mem_append.1 h with h | h
          · rcases List.mem_append.1 h with h | h
            · exact Or.inr ⟨first, List.mem_cons_self .., h⟩
            · exact Or.inl (List.mem_singleton.1 h)
          · rcases ih h with h | ⟨s, hs, hc⟩
            · exact Or.inl h
            · exact Or.inr ⟨s, List.mem_cons_of_mem _ hs, hc⟩

theorem mem_text_pathOf {c : Char} (h : c ∈ (text (pathOf components)).toList) :
    0x20 < c.toNat ∧ c.toNat < 0x7F := by
  rw [text, String.toList_ofList] at h
  rcases mem_intercalate ((List.dropWhile_sublist _).mem h) with rfl | ⟨s, hs, hc⟩
  · decide
  · obtain ⟨hLow, hHigh, -⟩ := mem_of_mem_pathOf hs hc
    exact ⟨hLow, hHigh⟩

/-- No slash is dropped in front of a segment that begins with something else. -/
theorem text_eq_intercalate {c : Char} {cs : List Char} (h : first.toList = c :: cs)
    (hc : c ≠ '/') : text (first :: rest) = "/".intercalate (first :: rest) := by
  have hList : ∃ more, ("/".intercalate (first :: rest)).toList = c :: more := by
    cases rest with
    | nil => exact ⟨cs, by rw [String.intercalate_singleton, h]⟩
    | cons second rest =>
        refine ⟨cs ++ "/".toList ++ ("/".intercalate (second :: rest)).toList, ?_⟩
        rw [String.intercalate_cons_cons, String.toList_append, String.toList_append, h]
        simp
  obtain ⟨more, hMore⟩ := hList
  rw [text, hMore, List.dropWhile_cons_of_neg (by simpa using hc), ← hMore, String.ofList_toList]

end DocWire.Target

import DocWire.Client
import DocWire.Proofs.Connection.Writing
import DocWire.Proofs.Frame.Wire
import DocWire.Proofs.Target

/-! A call to a database writes one request, whose target is the place that the call is about, with
one exception: a component may turn into two dots by the dropping of tabs and line breaks. -/

namespace DocWire

theorem Request.encode_target_injective {id : String} {method : Method} {s t : String}
    {payload : Bytes} (h : encode ⟨id, method, s, payload⟩ = encode ⟨id, method, t, payload⟩) :
    s = t := by
  have hBody : body ⟨id, method, s, payload⟩ = body ⟨id, method, t, payload⟩ :=
    (Frame.encode_text_append_inj h).2
  simp only [body, List.append_assoc, List.cons_append] at hBody
  have hRest := (List.cons.inj (List.cons.inj (List.append_cancel_left hBody)).2).2
  exact Utf8.encode_injective (List.append_cancel_right hRest)

namespace Outcome

variable {σ α β : Type}

theorem andThen_trace (o : Outcome σ α) (f : α → Except Error β) :
    (o.andThen f).trace = o.trace := by
  unfold andThen
  split
  · split <;> rfl
  all_goals rfl

theorem andThen_of_failed {o : Outcome σ α} {e : Error} (h : o.ending = .failed e)
    (f : α → Except Error β) : (o.andThen f).ending = .failed e := by
  unfold andThen
  rw [h]
  rfl

end Outcome

namespace DatabaseCall

variable {what : DatabaseCall} {name target component : String}

/-- The target is the place that the call is about, in some database: its segments are named as they
should be, and those of the database and of the document are each one place of their own. -/
def Targets (what : DatabaseCall) (target : String) : Prop :=
  ∃ db, Target.IsPlain db ∧
    match what with
    | .insert _ => target = "/".intercalate ["db", db, "docs"]
    | .get _ | .delete _ =>
      ∃ doc, Target.IsPlain doc ∧ target = "/".intercalate ["db", db, "docs", doc]
    | .schema | .setSchema _ => target = "/".intercalate ["db", db, "schema"]

/-- Nothing leads the call out of the database: a component is refused as it is, or none climbs. -/
def StaysInside (what : DatabaseCall) (name : String) : Prop :=
  (∃ component ∈ what.components name, Target.isDot component = true) ∨
    ∀ component ∈ what.components name, ¬ Target.Climbs component

/-- The components with a fixed name. -/
def words : List String := ["db", "docs", "schema"]

theorem not_climbs_of_mem_words (h : component ∈ words) : ¬ Target.Climbs component := by
  revert component
  decide

theorem segment_of_mem_words (h : component ∈ words) : Target.segment component = component := by
  revert component
  decide +kernel

theorem isDrive_of_mem_words (h : component ∈ words) : Target.isDrive component = false := by
  revert component
  decide

theorem mem_words_of_mem_place (h : component ∈ what.place) :
    component ∈ words ∨ what.place = ["docs", component] := by
  cases what with
  | get docid | delete docid =>
      rcases List.mem_cons.1 h with rfl | h
      · exact Or.inl (by decide)
      · obtain rfl := List.mem_singleton.1 h
        exact Or.inr rfl
  | insert doc | schema | setSchema newSchema =>
      obtain rfl := List.mem_singleton.1 h
      exact Or.inl (by decide)

theorem targets_of_forall_not_climbs
    (h : ∀ component ∈ what.components name, ¬ Target.Climbs component) :
    what.Targets (Target.text (Target.pathOf (what.components name))) := by
  have hDb : Target.segment "db" = "db" := segment_of_mem_words (by decide)
  have hDocs : Target.segment "docs" = "docs" := segment_of_mem_words (by decide)
  have hSchema : Target.segment "schema" = "schema" := segment_of_mem_words (by decide)
  have hFirst : Target.segment "db" ≠ "" := by
    rw [hDb]
    decide
  have hText : Target.text (Target.pathOf (what.components name)) =
      "/".intercalate ("db" :: Target.segment name :: what.place.map Target.segment) := by
    have hPath := Target.pathOf_eq_map_segment hFirst h
    rw [List.map_cons, List.map_cons, hDb] at hPath
    rw [components, hPath]
    exact Target.text_eq_intercalate (show "db".toList = 'd' :: ['b'] from rfl) (by decide)
  refine ⟨Target.segment name, Target.isPlain_segment (h name (by simp [components])), ?_⟩
  cases what with
  | get docid | delete docid =>
      have hPlain := Target.isPlain_segment (h docid (by simp [components, place]))
      refine ⟨Target.segment docid, hPlain, ?_⟩
      rw [hText, place, List.map_cons, List.map_singleton, hDocs]
  | insert doc => rw [hText, place, List.map_singleton, hDocs]
  | schema | setSchema newSchema => rw [hText, place, List.map_singleton, hSchema]

/-- A component that climbs stands behind one with a fixed name. -/
theorem exists_front_of_climbs (hMem : component ∈ what.components name)
    (hClimbs : Target.Climbs component) :
    ∃ front last rest, what.components name = front ++ last :: component :: rest ∧
      last ∈ words := by
  have hNotFixed (h : component ∈ words) : False := not_climbs_of_mem_words h hClimbs
  rcases List.mem_cons.1 hMem with rfl | hMem
  · exact (hNotFixed (by decide)).elim
  · rcases List.mem_cons.1 hMem with rfl | hMem
    · exact ⟨[], "db", what.place, rfl, by decide⟩
    · rcases mem_words_of_mem_place hMem with hFixed | hPlace
      · exact (hNotFixed hFixed).elim
      · refine ⟨["db", name], "docs", [], ?_, by decide⟩
        rw [components, hPlace]
        rfl

/-- The place of a call is as deep as the call has components. -/
theorem Targets.count_slash (h : what.Targets target) :
    target.toList.count '/' = what.place.length + 1 := by
  obtain ⟨db, hDb, hTarget⟩ := h
  have hSegments {rest : List String} (hRest : ∀ s ∈ rest, '/' ∉ s.toList) :
      ("/".intercalate ("db" :: db :: rest)).toList.count '/' = rest.length + 1 := by
    apply Target.count_slash_intercalate
    refine List.forall_mem_cons.2 ⟨by decide, List.forall_mem_cons.2 ⟨hDb.noSlash, hRest⟩⟩
  cases what with
  | get docid | delete docid =>
      obtain ⟨doc, hDoc, rfl⟩ := hTarget
      apply hSegments
      exact List.forall_mem_cons.2 ⟨by decide, List.forall_mem_singleton.2 hDoc.noSlash⟩
  | insert doc | schema | setSchema newSchema =>
      obtain rfl := hTarget
      apply hSegments
      exact List.forall_mem_singleton.2 (by decide)

/-- When a component climbs, the target is less deep than any place that the call could be about. -/
theorem not_targets_of_climbs (hMem : component ∈ what.components name)
    (hClimbs : Target.Climbs component) :
    ¬ what.Targets (Target.text (Target.pathOf (what.components name))) := by
  intro hTargets
  obtain ⟨front, last, rest, hComponents, hLast⟩ := exists_front_of_climbs hMem hClimbs
  have hDrive : Target.isDrive (Target.segment last) = false := by
    rw [segment_of_mem_words hLast]
    exact isDrive_of_mem_words hLast
  have hDepth := Target.depth_pathOf_lt front rest (not_climbs_of_mem_words hLast) hDrive hClimbs
  rw [← hComponents] at hDepth
  have hLength : (what.components name).length = what.place.length + 2 := rfl
  have hCount := Target.count_slash_text_le (n := what.place.length)
    (fun s hs hSlash => (Target.mem_of_mem_pathOf hs hSlash).2.2 rfl)
    (show Target.depth (Target.pathOf (what.components name)) ≤ _ by omega)
  rw [hTargets.count_slash] at hCount
  omega

end DatabaseCall

namespace Database

variable {σ α : Type} [Transport σ] {what : DatabaseCall} {c : Client σ} {db : Database}

/-- The call is refused because of its target and writes nothing, or it writes one request, which
goes to the place that the call is about. -/
def RefusedOrInside (c : Client σ) (what : DatabaseCall) (o : Outcome σ α) : Prop :=
  (∃ fault, o.ending = .failed (.invalidTarget fault) ∧ written o.trace = []) ∨
    ∃ target, what.Targets target ∧ written o.trace =
      [Request.encode ⟨Decimal.text c.connection.nextId, what.method, target, what.payload⟩]

theorem written_call (hOpen : c.connection.closed = false)
    (h : ∀ component ∈ what.components db.name, Target.isDot component = false) :
    written (db.call c what).trace = [Request.encode ⟨Decimal.text c.connection.nextId, what.method,
      Target.text (Target.pathOf (what.components db.name)), what.payload⟩] := by
  have hBuild : Target.build (what.components db.name) =
      .ok (Target.text (Target.pathOf (what.components db.name))) := by
    have hNone : (what.components db.name).find? Target.isDot = none := by
      rw [List.find?_eq_none]
      intro component hMem
      simp [h component hMem]
    rw [Target.build, hNone]
  have hSpace : (Target.text (Target.pathOf (what.components db.name))).toList.contains ' ' =
      false := by
    rw [List.contains_eq_mem, decide_eq_false_iff_not]
    intro hMem
    exact absurd (Target.mem_text_pathOf hMem).1 (by decide)
  rw [call, hBuild]
  dsimp only
  rw [Client.request, Outcome.andThen_trace, Connection.written_sendWait, hOpen, hSpace]
  rfl

theorem call_of_isDot {component : String} (hMem : component ∈ what.components db.name)
    (hDot : Target.isDot component = true) :
    ∃ fault, db.call c what = c.connection.finish (.failed (.invalidTarget fault)) := by
  cases hFind : (what.components db.name).find? Target.isDot with
  | none => exact absurd hDot (List.find?_eq_none.1 hFind component hMem)
  | some dot =>
      refine ⟨.dotSegment (what.components db.name) dot, ?_⟩
      rw [call, Target.build, hFind]

/-- Whatever is made of the response, a call stays inside its database exactly if nothing leads it
out. -/
theorem refusedOrInside_andThen_iff (hOpen : c.connection.closed = false)
    (f : Response → Except Error α) :
    RefusedOrInside c what ((db.call c what).andThen f) ↔ what.StaysInside db.name := by
  unfold RefusedOrInside
  rw [Outcome.andThen_trace]
  by_cases hDots : ∃ component ∈ what.components db.name, Target.isDot component = true
  · refine iff_of_true (Or.inl ?_) (Or.inl hDots)
    obtain ⟨component, hMem, hDot⟩ := hDots
    obtain ⟨fault, hCall⟩ := call_of_isDot (c := c) hMem hDot
    refine ⟨fault, Outcome.andThen_of_failed ?_ f, ?_⟩ <;> rw [hCall] <;> rfl
  · have hWritten := written_call (c := c) hOpen (by simpa using hDots)
    rw [hWritten]
    constructor
    · rintro (⟨fault, -, hNone⟩ | ⟨target, hTargets, hSame⟩)
      · cases hNone
      · obtain rfl := Request.encode_target_injective (List.cons.inj hSame).1
        refine Or.inr fun component hMem hClimbs => ?_
        exact DatabaseCall.not_targets_of_climbs hMem hClimbs hTargets
    · intro hStays
      exact Or.inr ⟨_, DatabaseCall.targets_of_forall_not_climbs (hStays.resolve_left hDots), rfl⟩

/-- Over an open connection, every call to a database is refused or stays inside the database,
exactly if nothing leads it out. -/
theorem refusedOrInside_iff (db : Database) (c : Client σ) (hOpen : c.connection.closed = false) :
    (∀ doc, RefusedOrInside c (.insert doc) (db.insert c doc) ↔
      (DatabaseCall.insert doc).StaysInside db.name) ∧
    (∀ docid, RefusedOrInside c (.get docid) (db.get c docid) ↔
      (DatabaseCall.get docid).StaysInside db.name) ∧
    (∀ docid, RefusedOrInside c (.delete docid) (db.delete c docid) ↔
      (DatabaseCall.delete docid).StaysInside db.name) ∧
    (RefusedOrInside c .schema (db.schema c) ↔ DatabaseCall.schema.StaysInside db.name) ∧
    ∀ newSchema, RefusedOrInside c (.setSchema newSchema) (db.setSchema c newSchema) ↔
      (DatabaseCall.setSchema newSchema).StaysInside db.name :=
  ⟨fun _ => refusedOrInside_andThen_iff hOpen _, fun _ => refusedOrInside_andThen_iff hOpen _,
    fun _ => refusedOrInside_andThen_iff hOpen _, refusedOrInside_andThen_iff hOpen _,
    fun _ => refusedOrInside_andThen_iff hOpen _⟩

/-- A client whose server answers the first request with a plain text. -/
def answeredOnce : Client Script :=
  .ofConnection (.ofTransport { reads := [.ok (Reply.encode "0" (Utf8.encode "Sdone"))] })

/-- Spaces, slashes and tabs in the components lead nowhere else. -/
theorem refusedOrInside_escaped :
    let o := (⟨"my db"⟩ : Database).delete answeredOnce "a/b\t"
    answeredOnce.connection.closed = false ∧
      RefusedOrInside answeredOnce (.delete "a/b\t") o ∧
      written o.trace = [Request.encode ⟨"0", .delete, "db/my%20db/docs/a%2Fb", []⟩] := by
  have hStays : (DatabaseCall.delete "a/b\t").StaysInside "my db" := by
    right
    decide +kernel
  refine ⟨rfl, ?_, by decide +kernel⟩
  exact ((refusedOrInside_iff ⟨"my db"⟩ answeredOnce rfl).2.2.1 "a/b\t").2 hStays

/-- With two dots and a tab between them for a document id, a removal goes to the database, and
succeeds. -/
theorem delete_goes_outside :
    let o := (⟨"x"⟩ : Database).delete answeredOnce ".\t."
    o.ending = .returned () ∧
      written o.trace = [Request.encode ⟨"0", .delete, "db/x/", []⟩] ∧
      ¬ RefusedOrInside answeredOnce (.delete ".\t.") o := by
  have hLeaves : ¬ (DatabaseCall.delete ".\t.").StaysInside "x" := by
    rintro (hDot | hCalm)
    · revert hDot
      decide +kernel
    · revert hCalm
      decide +kernel
  refine ⟨?_, ?_, ?_⟩
  · with_unfolding_all rfl
  · decide +kernel
  · intro hInside
    exact hLeaves ((refusedOrInside_andThen_iff rfl _).1 hInside)

end Database

end DocWire

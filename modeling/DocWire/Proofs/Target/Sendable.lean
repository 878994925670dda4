import DocWire.Proofs.Connection.ExactlyOnce
import DocWire.Proofs.Database.Addresses
import DocWire.Proofs.Frame.Parsing

/-! What escaping leaves is printable and no space, and that is all that a request asks of its
target. -/

namespace DocWire

theorem Outcome.refused_andThen {σ α β : Type} (o : Outcome σ α) {f : α → Except Error β}
    (h : ∀ a fault, f a ≠ .error (.invalidTarget fault)) : (o.andThen f).refused = o.refused := by
  obtain ⟨ending, c, events⟩ := o
  cases ending with
  | returned a =>
      simp only [andThen]
      cases hf : f a with
      | ok b => rfl
      | error e =>
          cases e with
          | invalidTarget fault => exact absurd hf (h a fault)
          | _ => rfl
  | failed e => cases e <;> rfl
  | aborted => rfl
  | stalled => rfl

theorem Response.check_ne_invalidTarget (r : Response) (fault : TargetFault) :
    r.check ≠ .error (.invalidTarget fault) := by
  cases r with
  | text s => simp [check]
  | document doc => cases h : reportsSuccess doc <;> simp [check, h]
  | failure f => simp [check]

namespace Target

variable {components : List String} {target : String}

theorem isDot_iff {component : String} :
    isDot component = true ↔ component = "." ∨ component = ".." := by
  simp [isDot]

theorem build_eq_error_iff :
    (∃ fault, build components = .error fault) ↔ "." ∈ components ∨ ".." ∈ components := by
  unfold build
  cases hFind : components.find? isDot with
  | none =>
      refine iff_of_false (by simp) ?_
      rintro (hMem | hMem)
      · exact List.find?_eq_none.1 hFind _ hMem rfl
      · exact List.find?_eq_none.1 hFind _ hMem rfl
  | some dot =>
      refine iff_of_true ⟨_, rfl⟩ ?_
      have hMem := List.mem_of_find?_eq_some hFind
      rcases isDot_iff.1 (List.find?_some hFind) with rfl | rfl
      · exact Or.inl hMem
      · exact Or.inr hMem

theorem printable_of_build (h : build components = .ok target) {c : Char}
    (hc : c ∈ target.toList) : 0x20 < c.toNat ∧ c.toNat < 0x7F := by
  rw [eq_text_of_build h] at hc
  exact mem_text_pathOf hc

theorem space_notMem_of_build (h : build components = .ok target) : ' ' ∉ target.toList := by
  intro hMem
  exact absurd (printable_of_build h hMem).1 (by decide)

variable {σ : Type} [Transport σ]

/-- What a connection writes for a target without a space is the frame of a body from which the
server reads that target. -/
theorem written_sendTo_readable {c : Connection σ} (hOpen : c.closed = false) (method : Method)
    (h : ' ' ∉ target.toList) (payload : Bytes) (r : Recipient) :
    ∃ body, written (c.sendTo method target payload r).trace = [Frame.encode body] ∧
      Request.parse? body = some ⟨Decimal.text c.nextId, method, target, payload⟩ := by
  refine ⟨Request.body ⟨Decimal.text c.nextId, method, target, payload⟩, ?_, ?_⟩
  · rw [Connection.written_sendTo, hOpen, List.contains_eq_mem, decide_eq_false h]
    rfl
  · have hId := Utf8.space_notMem_encode_iff.1 (Decimal.space_notMem_encode_text c.nextId)
    exact Request.Spells.parse? ⟨Request.body_eq _, hId, h⟩

/-- A call to a database is refused exactly if its target cannot be built. -/
theorem call_refused_iff (db : Database) (client : Client σ) (what : DatabaseCall) :
    (db.call client what).refused = true ↔
      ∃ fault, build (what.components db.name) = .error fault := by
  unfold Database.call
  cases hBuild : build (what.components db.name) with
  | error fault => exact iff_of_true rfl ⟨fault, rfl⟩
  | ok target =>
      have hSent :=
        client.connection.sendWait_refused what.method target what.payload client.timeout
      rw [List.contains_eq_mem, decide_eq_false (space_notMem_of_build hBuild)] at hSent
      have hAsked : (client.request what.method target what.payload).refused = false :=
        (Outcome.refused_andThen _ Response.check_ne_invalidTarget).trans hSent
      simp [hAsked]

/-- A target is built unless a component is one dot or two. It is printable and has no space in it,
so that no connection refuses it, and what is written for it is the frame of a body from which the
server reads it again. Calls to databases are refused only where no target is built. -/
theorem build_sends_what_it_builds (components : List String) :
    ((∃ fault, build components = .error fault) ↔ "." ∈ components ∨ ".." ∈ components) ∧
      (∀ target, build components = .ok target →
        (∀ ch ∈ target.toList, 0x20 < ch.toNat ∧ ch.toNat < 0x7F) ∧
        ∀ (σ : Type) [Transport σ] (c : Connection σ) (method : Method) (payload : Bytes),
          (∀ k, (c.send method target payload k).refused = false) ∧
          (∀ limit, (c.sendWait method target payload limit).refused = false) ∧
          (c.closed = false → ∀ k, ∃ body,
            written (c.send method target payload k).trace = [Frame.encode body] ∧
              Request.parse? body = some ⟨Decimal.text c.nextId, method, target, payload⟩)) ∧
      ∀ (σ : Type) [Transport σ] (client : Client σ) (db : Database) (what : DatabaseCall),
        what.components db.name = components →
          ((db.call client what).refused = true ↔ "." ∈ components ∨ ".." ∈ components) := by
  refine ⟨build_eq_error_iff, ?_, ?_⟩
  · intro target hBuild
    have hSpace := space_notMem_of_build hBuild
    have hSent : target.toList.contains ' ' = false := by
      rw [List.contains_eq_mem, decide_eq_false hSpace]
    refine ⟨fun _ => printable_of_build hBuild, fun σ _ c method payload => ⟨?_, ?_, ?_⟩⟩
    · intro k
      exact (c.sendTo_refused method target payload (.callback k)).trans hSent
    · intro limit
      exact (c.sendWait_refused method target payload limit).trans hSent
    · intro hOpen k
      exact written_sendTo_readable hOpen method hSpace payload (.callback k)
  · rintro σ _ client db what rfl
    exact (call_refused_iff db client what).trans build_eq_error_iff

/-- Spaces, escapes, a tab, and characters that are no ASCII or not printable. -/
theorem build_sends_what_it_builds_mixed :
    let what := DatabaseCall.get "é/\u0007"
    let c := Connection.ofTransport ({} : Script)
    build (what.components "a b%20\t") = .ok "db/a%20b%2520/docs/%C3%A9%2F%07" ∧
      (∃ body,
        written (c.send .get "db/a%20b%2520/docs/%C3%A9%2F%07" [0x20] ⟨"k", false⟩).trace =
            [Frame.encode body] ∧
          Request.parse? body =
            some ⟨Decimal.text 0, .get, "db/a%20b%2520/docs/%C3%A9%2F%07", [0x20]⟩) ∧
      ¬ (Database.call ⟨"a b%20\t"⟩ (.ofConnection c) what).refused = true := by
  intro what c
  have hBuild : build (what.components "a b%20\t") = .ok "db/a%20b%2520/docs/%C3%A9%2F%07" := by
    decide +kernel
  obtain ⟨-, hBuilt, hCalls⟩ := build_sends_what_it_builds (what.components "a b%20\t")
  obtain ⟨-, -, hWritten⟩ := (hBuilt _ hBuild).2 _ c .get [0x20]
  refine ⟨hBuild, hWritten rfl ⟨"k", false⟩, ?_⟩
  rw [hCalls _ (.ofConnection c) ⟨"a b%20\t"⟩ what rfl]
  decide

end Target

end DocWire

import DocWire.Config.Decode
import DocWire.Proofs.Json.Reading

/-! What a file with an object comes to is the default settings with its own in their place, in
whatever order they stand and whatever stands between them. -/

namespace DocWire.Config

open Json

/-- Some of the settings. -/
structure Layer where
  serverPath : Option String := none
  serverArgs : Option (List String) := none
  timeoutSecs : Option Nat := none
  readChunk : Option Nat := none

/-- A setting with its value. -/
inductive Setting where
  | serverPath (path : String)
  | serverArgs (args : List String)
  | timeoutSecs (n : Nat)
  | readChunk (n : Nat)

namespace Setting

def field : Setting → Field
  | .serverPath _ => .serverPath
  | .serverArgs _ => .serverArgs
  | .timeoutSecs _ => .timeoutSecs
  | .readChunk _ => .readChunk

/-- The settings of `c` with this one in its place. -/
def apply (c : Config) : Setting → Config
  | .serverPath path => { c with serverPath := path }
  | .serverArgs args => { c with serverArgs := args }
  | .timeoutSecs n => { c with timeoutSecs := n }
  | .readChunk n => { c with readChunk := n }

/-- `s` begins with the value of the setting: a text, a list of texts, or a natural number of at
most 64 bits. -/
inductive Value : Setting → Bytes → Bytes → Prop where
  | serverPath {s t : Bytes} {cs : List Char} (text : Characters s cs t) :
      Value (.serverPath (String.ofList cs)) (byte '"' :: s) t
  | serverArgs {s t : Bytes} {args : List String} (list : TextList s args t) :
      Value (.serverArgs args) s t
  | timeoutSecs {s t : Bytes} {n : Nat} (number : Whole s n t) (hWord : n ≤ Decimal.maxWord) :
      Value (.timeoutSecs n) s t
  | readChunk {s t : Bytes} {n : Nat} (number : Whole s n t) (hWord : n ≤ Decimal.maxWord) :
      Value (.readChunk n) s t

end Setting

namespace Layer

/-- The settings of `c`, with those of the layer in their place. -/
def onto (l : Layer) (c : Config) : Config where
  serverPath := l.serverPath.getD c.serverPath
  serverArgs := l.serverArgs.getD c.serverArgs
  timeoutSecs := l.timeoutSecs.getD c.timeoutSecs
  readChunk := l.readChunk.getD c.readChunk

def Lacks (l : Layer) : Field → Prop
  | .serverPath => l.serverPath = none
  | .serverArgs => l.serverArgs = none
  | .timeoutSecs => l.timeoutSecs = none
  | .readChunk => l.readChunk = none

def add (l : Layer) : Setting → Layer
  | .serverPath path => { l with serverPath := some path }
  | .serverArgs args => { l with serverArgs := some args }
  | .timeoutSecs n => { l with timeoutSecs := some n }
  | .readChunk n => { l with readChunk := some n }

end Layer

/-- `s` begins with the members that make the settings of a layer, and the brace behind them. No
setting is made twice. -/
inductive Members : Bool → Layer → Bytes → Bytes → Prop where
  | close {first : Bool} {s t : Bytes} (close : Blanks s (byte '\x7d' :: t)) :
      Members first {} s t
  | setting {first : Bool} {l : Layer} {g : Setting} {s s₁ s₂ s₃ s₄ t : Bytes}
      (front : Separated first s s₁) (named : Named g.field.name s₁ s₂) (blanks : Blanks s₂ s₃)
      (value : g.Value s₃ s₄) (rest : Members false l s₄ t) (hNew : l.Lacks g.field) :
      Members first (l.add g) s t
  | other {first : Bool} {l : Layer} {name : String} {s s₁ s₂ s₃ s₄ t : Bytes}
      (front : Separated first s s₁) (named : Named name s₁ s₂) (blanks : Blanks s₂ s₃)
      (value : Begins .value s₃ s₄) (rest : Members false l s₄ t)
      (hOther : ∀ f : Field, f.name ≠ name) :
      Members first l s t

/-- The text, given by its bytes, is an object that makes the settings of a layer. -/
inductive File : Layer → Bytes → Prop where
  | intro {l : Layer} {s s₁ s₂ : Bytes} (before : Blanks s (byte '\x7b' :: s₁))
      (members : Members true l s₁ s₂) (after : Blanks s₂ []) : File l s

variable {l : Layer} {g : Setting} {c : Config} {s s₁ t : Bytes} {first : Bool}

theorem Layer.onto_add (h : l.Lacks g.field) (c : Config) :
    (l.add g).onto c = l.onto (g.apply c) := by
  cases g <;> simp_all [Layer.Lacks, Setting.field, Layer.add, Layer.onto, Setting.apply]

theorem Layer.lacks_add {f : Field} : (l.add g).Lacks f ↔ g.field ≠ f ∧ l.Lacks f := by
  cases g <;> cases f <;> simp [Layer.Lacks, Setting.field, Layer.add]

theorem Field.ofName?_name (f : Field) : Field.ofName? f.name = some f := by
  cases f <;> rfl

theorem Field.ofName?_of_other {name : String} (h : ∀ f : Field, f.name ≠ name) :
    Field.ofName? name = none :=
  List.find?_eq_none.2 fun f _ => by simp [h f]

theorem Setting.Value.read (h : g.Value s₁ t) (blanks : Blanks s s₁) (hStops : Stops t) :
    g.field.read c s = .ok (g.apply c, t) := by
  cases h with
  | serverPath text =>
      simp only [Setting.field, Field.read, text.readText blanks, ok_bind]
      rfl
  | serverArgs list =>
      simp only [Setting.field, Field.read, list.readTextList blanks, ok_bind]
      rfl
  | timeoutSecs number hWord =>
      simp only [Setting.field, Field.read, number.readNatural blanks hStops hWord, ok_bind]
      rfl
  | readChunk number hWord =>
      simp only [Setting.field, Field.read, number.readNatural blanks hStops hWord, ok_bind]
      rfl

theorem Setting.Value.length_le (h : g.Value s t) : t.length ≤ s.length := by
  cases h with
  | serverPath text => exact Nat.le_succ_of_le (Nat.le_of_lt text.length_lt)
  | serverArgs list => exact list.length_le
  | timeoutSecs number hWord => exact Nat.le_of_lt number.length_lt
  | readChunk number hWord => exact Nat.le_of_lt number.length_lt

/-- Behind a value stands a comma or the brace, and neither continues a number. -/
theorem Members.stops (h : Members false l s t) : Stops s := by
  cases h with
  | close close => exact close.stops (by simp)
  | setting front named blanks value rest hNew =>
    cases front with
    | comma comma => exact comma.stops (by simp)
  | other front named blanks value rest hOther =>
    cases front with
    | comma comma => exact comma.stops (by simp)

/-- Members are read one after the other, each over the settings that those in front of it left. -/
theorem Members.readMembers (h : Members first l s t) {c : Config} {made : List Field}
    (hMade : ∀ f ∈ made, l.Lacks f) {steps : Nat} (hSteps : s.length < steps) :
    ∃ r, readMembers c made steps first s = .ok (l.onto c, r) ∧ closeObject r = .ok t := by
  induction h generalizing c made steps with
  | @close first s t close =>
      obtain ⟨k, rfl⟩ := Nat.exists_eq_add_of_lt hSteps
      refine ⟨s, ?_, close.closeObject⟩
      rw [Config.readMembers, nextName_closed close, ok_bind]
      rfl
  | @setting first l g s s₁ s₂ s₃ s₄ t front named blanks value rest hNew ih =>
      obtain ⟨k, rfl⟩ := Nat.exists_eq_add_of_lt hSteps
      have hLess : s₄.length < s.length + k := by
        have hValue := value.length_le
        have hFront := front.length_le
        have hNamed := named.length_lt
        have hBlanks := blanks.length_le
        omega
      obtain ⟨r, hName, hColon⟩ := named.nextName front
      have hFresh : made.contains g.field = false := by
        simp only [List.contains_eq_mem, decide_eq_false_iff_not]
        exact fun hMem => (Layer.lacks_add.1 (hMade _ hMem)).1 rfl
      have hMade' : ∀ f ∈ g.field :: made, l.Lacks f :=
        List.forall_mem_cons.2 ⟨hNew, fun f hMem => (Layer.lacks_add.1 (hMade f hMem)).2⟩
      obtain ⟨r', hRest, hClose⟩ := ih (c := g.apply c) hMade' hLess
      refine ⟨r', ?_, hClose⟩
      rw [Config.readMembers, hName, ok_bind, Layer.onto_add hNew]
      simp only [Field.ofName?_name, hFresh, hColon, ok_bind, value.read blanks rest.stops, hRest,
        Bool.false_eq_true, if_false]
  | @other first l name s s₁ s₂ s₃ s₄ t front named blanks value rest hOther ih =>
      obtain ⟨k, rfl⟩ := Nat.exists_eq_add_of_lt hSteps
      have hLess : s₄.length < s.length + k := by
        have hValue := value.length_lt
        have hFront := front.length_le
        have hNamed := named.length_lt
        have hBlanks := blanks.length_le
        omega
      obtain ⟨r, hName, hColon⟩ := named.nextName front
      obtain ⟨r', hRest, hClose⟩ := ih (c := c) hMade hLess
      refine ⟨r', ?_, hClose⟩
      rw [Config.readMembers, hName, ok_bind]
      simp only [Field.ofName?_of_other hOther, hColon, ok_bind, value.skip blanks rest.stops,
        hRest]

/-- A file comes to the default settings with its own in their place. -/
theorem File.parse {text : String} (h : File l (Utf8.encode text)) :
    Config.parse text = .ok (l.onto .default) := by
  generalize hBytes : Utf8.encode text = bytes at h
  cases h with
  | @intro s₁ s₂ before members after =>
      obtain ⟨r, hRead, hClose⟩ := members.readMembers (c := .default)
        (List.forall_mem_nil _) (Nat.lt_succ_self _)
      have hOpened : Config.read .default bytes = .ok (l.onto .default, s₂) := by
        have hBrace : byte '\x7b' ≠ byte '[' := by decide
        simp only [Config.read, before.skipBlanks rfl, if_neg hBrace, if_true, hRead, ok_bind,
          hClose]
        rfl
      have hEnd : endOfText s₂ = .ok () := by
        rw [endOfText, after.skipBlanks_nil]
        rfl
      rw [Config.parse, hBytes]
      simp only [hOpened, ok_bind, hEnd]
      rfl

end DocWire.Config

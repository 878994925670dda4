import DocWire.CommandLine
import DocWire.Proofs.Config.Files
import DocWire.Proofs.Decimal.Reading
import DocWire.Proofs.Text.Blank

/-! Each setting of a run comes from the topmost layer that makes it: the options, the variables,
the file, and the default settings below. Variables and options know the program and the time limit
only. -/

namespace DocWire

open Json Text

namespace Environment

/-- The variable is set, and its value is this text. -/
def Holds (env : Environment) (name value : String) : Prop :=
  env name = some (Utf8.encode value)

/-- The program that a variable names: a text without the blanks around it, unless it is blank. -/
inductive Program (env : Environment) : Option String → Prop where
  | unset (hUnset : ∀ value, ¬ env.Holds pathVariable value) : Program env none
  | blank {value : String} (hHolds : env.Holds pathVariable value) (hBlank : Trims value "") :
      Program env none
  | named {value path : String} (hHolds : env.Holds pathVariable value) (hTrims : Trims value path)
      (hSome : path ≠ "") : Program env (some path)

/-- The time limit that a variable sets. -/
inductive Limit (env : Environment) : Option Nat → Prop where
  | unset (hUnset : ∀ value, ¬ env.Holds timeoutVariable value) : Limit env none
  | set {value digits : String} {n : Nat} (hHolds : env.Holds timeoutVariable value)
      (hTrims : Trims value digits) (hSpells : Decimal.Spells digits n) : Limit env (some n)

/-- The variable for the time limit holds a text that is no number of at most 64 bits, whatever
blanks stand around it. -/
def BadLimit (env : Environment) : Prop :=
  ∃ value digits, env.Holds timeoutVariable value ∧ Trims value digits ∧
    ∀ n, ¬ Decimal.Spells digits n

theorem exists_program (env : Environment) : ∃ program, env.Program program := by
  by_cases hSet : ∃ value, env.Holds pathVariable value
  · obtain ⟨value, hHolds⟩ := hSet
    by_cases hBlank : trim value = ""
    · exact ⟨none, .blank hHolds (trims_iff.2 hBlank)⟩
    · exact ⟨some (trim value), .named hHolds (trims_trim value) hBlank⟩
  · exact ⟨none, .unset fun value hHolds => hSet ⟨value, hHolds⟩⟩

theorem exists_limit_or_badLimit (env : Environment) :
    (∃ limit, env.Limit limit) ∨ env.BadLimit := by
  by_cases hSet : ∃ value, env.Holds timeoutVariable value
  · obtain ⟨value, hHolds⟩ := hSet
    by_cases hNumber : ∃ n, Decimal.Spells (trim value) n
    · obtain ⟨n, hSpells⟩ := hNumber
      exact Or.inl ⟨some n, .set hHolds (trims_trim value) hSpells⟩
    · exact Or.inr ⟨value, trim value, hHolds, trims_trim value,
        fun n hSpells => hNumber ⟨n, hSpells⟩⟩
  · exact Or.inl ⟨none, .unset fun value hHolds => hSet ⟨value, hHolds⟩⟩

variable {env : Environment} {name value : String}

theorem text?_eq_some_iff : env.text? name = some value ↔ env.Holds name value := by
  unfold text? Holds
  cases env name with
  | none => simp
  | some bytes =>
      simp only [Option.bind_some, Option.some_inj]
      constructor
      · exact fun h => (Utf8.encode_of_decode? h).symm
      · rintro rfl
        rw [Utf8.decode?_encode]
        rfl

theorem text?_eq_none_iff : env.text? name = none ↔ ∀ value, ¬ env.Holds name value := by
  simp only [Option.eq_none_iff_forall_ne_some, ne_eq, text?_eq_some_iff]

end Environment

/-- Around a run, the two variables for settings are those of a process. -/
structure Surroundings.Shows (s : Surroundings) (env : Environment) : Prop where
  program : s.valueOf? pathVariable = env.text? pathVariable
  limit : s.valueOf? timeoutVariable = env.text? timeoutVariable

/-- The file that settings are read from: a given one, or else the default one if it exists. -/
def Surroundings.source? (s : Surroundings) (path : Option String) : Option String :=
  path.or (s.defaultConfigPath?.filter s.fileExists)

namespace Config

/-- The settings that the file makes, which are none where there is no file. -/
inductive Makes (s : Surroundings) : Option String → Layer → Prop where
  | nothing : Makes s none {}
  | file {path text : String} {l : Layer} (hRead : s.readFile path = .ok (Utf8.encode text))
      (file : File l (Utf8.encode text)) : Makes s (some path) l

/-- The file cannot be read, is no text, or cannot be parsed. -/
inductive Useless (s : Surroundings) : Option String → Prop where
  | unreadable {path : String} {cause : IoError} (hRead : s.readFile path = .error cause) :
      Useless s (some path)
  | noText {path : String} {bytes : Bytes} (hRead : s.readFile path = .ok bytes)
      (hNoText : ∀ text, bytes ≠ Utf8.encode text) : Useless s (some path)
  | invalid {path text : String} {fault : Json.Fault}
      (hRead : s.readFile path = .ok (Utf8.encode text)) (hParse : parse text = .error fault) :
      Useless s (some path)

end Config

/-- Each setting from the topmost layer that makes it. -/
def Arguments.layered (a : Arguments) (program : Option String) (limit : Option Nat)
    (file : Config.Layer) : Config where
  serverPath := ((a.server.or program).or file.serverPath).getD Config.default.serverPath
  serverArgs := file.serverArgs.getD Config.default.serverArgs
  timeoutSecs := ((a.timeoutSecs.or limit).or file.timeoutSecs).getD Config.default.timeoutSecs
  readChunk := file.readChunk.getD Config.default.readChunk

/-- A run that has its settings: the server is started by them, and then the command is carried
out. -/
def Run.started {σ : Type} [Transport σ] (start : String → List String → Except IoError σ)
    (c : Config) (words : List String) : Run :=
  match start c.serverPath c.serverArgs with
  | .error e => failed (.start c.serverPath (.connectionFailed e))
  | .ok transport => onTransport c words transport

namespace Config

variable {s : Surroundings} {env : Environment} {c : Config} {path : Option String} {l : Layer}
  {program : Option String} {limit : Option Nat} {text : String}

theorem load_of_encode {path : String} (hRead : s.readFile path = .ok (Utf8.encode text)) :
    load s path = (parse text).mapError (.invalid path) := by
  simp only [load, Surroundings.readText, hRead, ok_bind, Utf8.decode?_encode]
  rfl

theorem load_of_parse {path : String} (hRead : s.readFile path = .ok (Utf8.encode text))
    (hParse : parse text = .ok c) : load s path = .ok c := by
  rw [load_of_encode hRead, hParse]
  rfl

theorem loadLayer_eq (s : Surroundings) (path : Option String) :
    loadLayer s path = (s.source? path).elim (.ok .default) (load s) := by
  cases path with
  | some path => rfl
  | none =>
      rw [loadLayer, Surroundings.source?, Option.none_or]
      cases s.defaultConfigPath?.filter s.fileExists <;> rfl

/-- The file's settings are made in the place of the default ones. -/
theorem Makes.loadLayer (h : Makes s (s.source? path) l) :
    loadLayer s path = .ok (l.onto .default) := by
  rw [loadLayer_eq]
  generalize s.source? path = source at h
  cases h with
  | nothing => rfl
  | file hRead file => exact load_of_parse hRead file.parse

theorem exists_error_load_iff {path : String} :
    (∃ cause, load s path = .error cause) ↔ Useless s (some path) := by
  constructor
  · rintro ⟨cause, hLoad⟩
    cases hRead : s.readFile path with
    | error e => exact .unreadable hRead
    | ok bytes =>
        cases hText : (Utf8.decode? bytes).toOption with
        | none =>
            refine .noText hRead fun text hSame => ?_
            rw [hSame, Utf8.decode?_encode] at hText
            cases hText
        | some text =>
            obtain rfl := Utf8.encode_of_decode? hText
            cases hParse : parse text with
            | error fault => exact .invalid hRead hParse
            | ok c => cases hLoad.symm.trans (load_of_parse hRead hParse)
  · intro h
    cases h with
    | @unreadable _ cause hRead =>
        exact ⟨.unreadable path cause, by simp only [load, Surroundings.readText, hRead]; rfl⟩
    | @noText _ bytes hRead hNoText =>
        refine ⟨.unreadable path Surroundings.notAText, ?_⟩
        cases hText : Utf8.decode? bytes with
        | ok text => exact absurd (Utf8.encode_of_decode? (by rw [hText]; rfl)).symm (hNoText text)
        | error fault =>
            simp only [load, Surroundings.readText, hRead, ok_bind, hText]
            rfl
    | @invalid _ text fault hRead hParse =>
        exact ⟨.invalid path fault, by rw [load_of_encode hRead, hParse]; rfl⟩

theorem exists_error_loadLayer_iff :
    (∃ cause, loadLayer s path = .error cause) ↔ Useless s (s.source? path) := by
  rw [loadLayer_eq]
  cases s.source? path with
  | none => exact iff_of_false (by simp) (fun h => by cases h)
  | some path => exact exists_error_load_iff

/-- The program in the value of a variable. -/
def namedProgram (value : Option String) : Option String :=
  (value.map trim).filter fun path => !path.isEmpty

/-- The time limit in the value of a variable. -/
def namedLimit : Option String → Except Failure (Option Nat)
  | none => .ok none
  | some value =>
    match Decimal.read (trim value) with
    | .ok n => .ok (some n)
    | .error fault => .error (.badTimeout value fault)

theorem withVariables_eq (c : Config) (valueOf? : String → Option String) :
    c.withVariables valueOf? = (namedLimit (valueOf? timeoutVariable)).map fun limit => { c with
      serverPath := (namedProgram (valueOf? pathVariable)).getD c.serverPath
      timeoutSecs := limit.getD c.timeoutSecs } := by
  unfold withVariables namedProgram
  cases (valueOf? pathVariable).map trim with
  | none =>
      cases valueOf? timeoutVariable with
      | none => rfl
      | some value =>
          dsimp only [namedLimit]
          cases Decimal.read (trim value) <;> rfl
  | some path =>
      rw [Option.filter_some]
      dsimp only
      cases path.isEmpty <;> cases valueOf? timeoutVariable with
      | none => rfl
      | some value =>
          dsimp only [namedLimit]
          cases Decimal.read (trim value) <;> rfl

theorem namedProgram_eq (h : env.Program program) :
    namedProgram (env.text? pathVariable) = program := by
  cases h with
  | unset hUnset =>
      rw [Environment.text?_eq_none_iff.2 hUnset]
      rfl
  | blank hHolds hBlank =>
      rw [Environment.text?_eq_some_iff.2 hHolds]
      simp [namedProgram, hBlank.trim_eq]
  | named hHolds hTrims hSome =>
      rw [Environment.text?_eq_some_iff.2 hHolds]
      simp [namedProgram, hTrims.trim_eq, hSome]

theorem namedLimit_eq (h : env.Limit limit) :
    namedLimit (env.text? timeoutVariable) = .ok limit := by
  cases h with
  | unset hUnset =>
      rw [Environment.text?_eq_none_iff.2 hUnset]
      rfl
  | set hHolds hTrims hSpells =>
      rw [Environment.text?_eq_some_iff.2 hHolds]
      simp only [namedLimit, hTrims.trim_eq, hSpells.read]

theorem exists_error_namedLimit_iff :
    (∃ cause, namedLimit (env.text? timeoutVariable) = .error cause) ↔ env.BadLimit := by
  constructor
  · rintro ⟨cause, hError⟩
    rcases env.exists_limit_or_badLimit with ⟨limit, hLimit⟩ | hBad
    · cases hError.symm.trans (namedLimit_eq hLimit)
    · exact hBad
  · rintro ⟨value, digits, hHolds, hTrims, hNone⟩
    rw [Environment.text?_eq_some_iff.2 hHolds, namedLimit, hTrims.trim_eq]
    cases hRead : Decimal.read digits with
    | ok n => exact absurd (Decimal.spells_of_read hRead) (hNone n)
    | error fault => exact ⟨_, rfl⟩

theorem withVariables_of_limit (hShows : s.Shows env) (hProgram : env.Program program)
    (hLimit : env.Limit limit) (c : Config) :
    c.withVariables s.valueOf? = .ok { c with
      serverPath := program.getD c.serverPath
      timeoutSecs := limit.getD c.timeoutSecs } := by
  rw [withVariables_eq, hShows.program, hShows.limit, namedProgram_eq hProgram,
    namedLimit_eq hLimit]
  rfl

theorem exists_error_withVariables_iff (hShows : s.Shows env) (c : Config) :
    (∃ cause, c.withVariables s.valueOf? = .error cause) ↔ env.BadLimit := by
  rw [withVariables_eq, hShows.limit, ← exists_error_namedLimit_iff]
  cases namedLimit (env.text? timeoutVariable) <;> simp [Except.map]

theorem withVariables_congr {s' : Surroundings} (hShows : s.Shows env) (hShows' : s'.Shows env)
    (c : Config) : c.withVariables s'.valueOf? = c.withVariables s.valueOf? := by
  rw [withVariables_eq, withVariables_eq, hShows.program, hShows.limit, hShows'.program,
    hShows'.limit]

/-- Variables that were taken into account once change nothing when they are again. -/
theorem withVariables_twice (c : Config) (valueOf? : String → Option String) :
    (c.withVariables valueOf? >>= fun c => c.withVariables valueOf?) =
      c.withVariables valueOf? := by
  simp only [withVariables_eq]
  cases namedLimit (valueOf? timeoutVariable) with
  | error fault => rfl
  | ok limit =>
      cases namedProgram (valueOf? pathVariable) <;> cases limit <;> rfl

theorem resolve_of_layers (hShows : s.Shows env) (hProgram : env.Program program)
    (hLimit : env.Limit limit) (hMakes : Makes s (s.source? path) l) :
    resolve s path = .ok { l.onto .default with
      serverPath := program.getD (l.onto .default).serverPath
      timeoutSecs := limit.getD (l.onto .default).timeoutSecs } := by
  rw [resolve, hMakes.loadLayer, ok_bind, withVariables_of_limit hShows hProgram hLimit]

theorem exists_error_resolve_iff (hShows : s.Shows env) :
    (∃ cause, resolve s path = .error cause) ↔ Useless s (s.source? path) ∨ env.BadLimit := by
  rw [resolve, ← exists_error_loadLayer_iff]
  cases hLoad : loadLayer s path with
  | error cause => exact iff_of_true ⟨cause, rfl⟩ (Or.inl ⟨cause, rfl⟩)
  | ok c =>
      rw [ok_bind, exists_error_withVariables_iff hShows]
      simp

/-- A file that is given is the only one that matters. -/
theorem resolve_congr {s' : Surroundings} {path : String} (hShows : s.Shows env)
    (hShows' : s'.Shows env) (hRead : s'.readFile path = s.readFile path) :
    resolve s' (some path) = resolve s (some path) := by
  have hLoad : loadLayer s' (some path) = loadLayer s (some path) := by
    simp only [loadLayer, load, Surroundings.readText, hRead]
  simp only [resolve, hLoad, withVariables_congr hShows hShows']

end Config

/-- Each setting of a run comes from the topmost layer that makes it, whatever the file, the
variables and the options are, and the server is started by the settings. There are none exactly if
the file is of no use or the variable for the time limit holds no number. A file that is given is
read in the place of the default one, and variables that are taken into account again change
nothing. -/
theorem Arguments.settings_are_layered (s : Surroundings) (env : Environment) (a : Arguments)
    (hShows : s.Shows env) :
    (∃ program, env.Program program) ∧ ((∃ limit, env.Limit limit) ∨ env.BadLimit) ∧
    (∀ program limit file, env.Program program → env.Limit limit →
      Config.Makes s (s.source? a.config) file →
        a.settings s = .ok (a.layered program limit file) ∧
        ∀ {σ : Type} [Transport σ] (start : String → List String → Except IoError σ) words,
          Arguments.parse words = .ok a →
            Run.of s start words = Run.started start (a.layered program limit file) a.command) ∧
    (∀ path, (∃ cause, Config.resolve s path = .error cause) ↔
      Config.Useless s (s.source? path) ∨ env.BadLimit) ∧
    (∀ path s', s'.Shows env → s'.readFile path = s.readFile path →
      Config.resolve s' (some path) = Config.resolve s (some path)) ∧
    ∀ (c : Config) (valueOf? : String → Option String),
      (c.withVariables valueOf? >>= fun c => c.withVariables valueOf?) =
        c.withVariables valueOf? := by
  refine ⟨env.exists_program, env.exists_limit_or_badLimit,
    fun program limit file hProgram hLimit hMakes => ?_,
    fun path => Config.exists_error_resolve_iff hShows,
    fun path s' hShows' hRead => Config.resolve_congr hShows hShows' hRead,
    Config.withVariables_twice⟩
  have hSettings : a.settings s = .ok (a.layered program limit file) := by
    rw [settings, Config.resolve_of_layers hShows hProgram hLimit hMakes]
    simp only [override, layered, Config.Layer.onto, Option.getD_or]
  refine ⟨hSettings, fun start words hParse => ?_⟩
  simp only [Run.of, hParse, hSettings]
  rfl

/-- Surroundings with these variables, and with this text in every file. -/
def Surroundings.holding (env : Environment) (text : String) : Surroundings where
  valueOf? := env.text?
  accountHome := none
  readFile _ := .ok (Utf8.encode text)
  fileExists _ := false

theorem Surroundings.holding_shows (env : Environment) (text : String) :
    (holding env text).Shows env :=
  ⟨rfl, rfl⟩

/-- A variable names the program with blanks around it, and a file sets the time limit behind a
member that is no setting. -/
theorem Arguments.settings_are_layered_padded :
    let env : Environment := fun name =>
      if name = pathVariable then some (Utf8.encode " /opt/xaprun\n") else none
    let s := Surroundings.holding env "\x7b\"note\":null,\"timeout_secs\":5\x7d"
    let a : Arguments := { config := some "client.json", command := ["version"] }
    s.Shows env ∧ env.Program (some "/opt/xaprun") ∧ env.Limit none ∧
      Config.Makes s (s.source? a.config) { timeoutSecs := some 5 } ∧
      a.settings s = .ok { serverPath := "/opt/xaprun", timeoutSecs := 5 } := by
  intro env s a
  have hShows : s.Shows env := Surroundings.holding_shows env _
  have hProgram : env.Program (some "/opt/xaprun") :=
    .named rfl (trims_iff.2 rfl) (by decide)
  have hLimit : env.Limit none := by
    refine .unset fun value hHolds => ?_
    cases hHolds
  have hMakes : Config.Makes s (s.source? a.config) { timeoutSecs := some 5 } := by
    have hText : Utf8.encode "\x7b\"note\":null,\"timeout_secs\":5\x7d" = byte '\x7b' :: byte '"' ::
        (Utf8.encode "note" ++ byte '"' :: byte ':' :: byte 'n' :: byte 'u' :: byte 'l' ::
          byte 'l' :: byte ',' :: byte '"' :: (Utf8.encode "timeout_secs" ++ byte '"' ::
            byte ':' :: byte '5' :: [byte '\x7d'])) := by
      decide +kernel
    refine .file rfl ?_
    rw [hText]
    have hNote := Named.spelled "note" (by simp)
    have hTimeout := Named.spelled "timeout_secs" (by simp)
    have hFive : Whole [byte '5', byte '\x7d'] 5 [byte '\x7d'] :=
      .digits (d := 5) rfl (by decide) (.none 5 _)
    have hSetting : Config.Members false { timeoutSecs := some 5 } _ [] :=
      .setting (g := .timeoutSecs 5) (l := {}) (.comma (.none _)) (hTimeout _) (.none _)
        (.timeoutSecs hFive (by decide)) (.close (.none _)) rfl
    exact .intro (.none _) (.other (.first _) (hNote _) (.none _) (.null _) hSetting
      (by rintro (_ | _ | _ | _) <;> decide)) (.none _)
  obtain ⟨-, -, hLayers, -⟩ := settings_are_layered s env a hShows
  obtain ⟨hSettings, -⟩ := hLayers _ _ _ hProgram hLimit hMakes
  exact ⟨hShows, hProgram, hLimit, hMakes, hSettings⟩

/-- A time limit that is set, but to no text, does not keep a run from its settings. -/
theorem Config.limit_that_is_no_text_is_passed_over :
    ¬ ∀ (s : Surroundings) (env : Environment) (path : Option String), s.Shows env →
      ((∃ cause, resolve s path = .error cause) ↔
        Useless s (s.source? path) ∨
          ∃ bytes, env timeoutVariable = some bytes ∧ ¬ ∃ value digits n,
            bytes = Utf8.encode value ∧ Trims value digits ∧ Decimal.Spells digits n) := by
  intro hClaim
  let env : Environment := fun name => if name = timeoutVariable then some [0xFE] else none
  have hShows := Surroundings.holding_shows env ""
  have hNoText (value : String) : [0xFE] ≠ Utf8.encode value := by
    intro hSame
    have hDecoded := Utf8.decode?_encode value
    have hFault : Utf8.decode? [0xFE] = .error ⟨0, some 1⟩ := by
      simp [Utf8.decode?, Utf8.decodeFrom, Utf8.scan, Utf8.lead?, Except.map]
    cases (hSame ▸ hFault).symm.trans hDecoded
  have hFails := (hClaim _ env none hShows).2 (Or.inr ⟨[0xFE], rfl, ?_⟩)
  · rw [exists_error_resolve_iff hShows] at hFails
    rcases hFails with hUseless | ⟨value, digits, hHolds, -⟩
    · cases hUseless
    · exact hNoText value (Option.some.inj hHolds)
  · rintro ⟨value, digits, n, hSame, -⟩
    exact hNoText value hSame

end DocWire

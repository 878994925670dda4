import DocWire.CommandLine
import DocWire.Proofs.Decimal.Reading

/-! The first word that stands where an option could stand and is none begins the command, and the
word behind an option is its value, whatever they look like. So a list of words is read in one way
at most. -/

namespace DocWire.Arguments

/-- The words that do not begin a command. -/
def reserved : List String := ["--config", "--server", "--timeout", "-h", "--help"]

/-- An option with its value. -/
inductive Given where
  | config (path : String)
  | server (path : String)
  | timeout (value : String) (secs : Nat) (spells : Decimal.Spells value secs)

namespace Given

/-- The two words that give an option. -/
def words : Given → List String
  | config path => ["--config", path]
  | server path => ["--server", path]
  | timeout value _ _ => ["--timeout", value]

def config? : Given → Option String
  | config path => some path
  | _ => none

def server? : Given → Option String
  | server path => some path
  | _ => none

def secs? : Given → Option Nat
  | timeout _ secs _ => some secs
  | _ => none

/-- The arguments after one more option: what it gives counts, and else what was given before. -/
def apply (a : Arguments) (g : Given) : Arguments :=
  { a with
    config := g.config?.or a.config
    server := g.server?.or a.server
    timeoutSecs := g.secs?.or a.timeoutSecs }

/-- The words of an option tell it from others and from what follows. -/
theorem words_append_inj {g g' : Given} {s t : List String} (h : g.words ++ s = g'.words ++ t) :
    g = g' ∧ s = t := by
  cases g <;> cases g' <;>
    simp only [words, List.cons_append, List.nil_append, List.cons.injEq] at h
  case config.config => exact ⟨congrArg config h.2.1, h.2.2⟩
  case server.server => exact ⟨congrArg server h.2.1, h.2.2⟩
  case timeout.timeout value secs spells value' secs' spells' =>
    obtain ⟨-, rfl, rfl⟩ := h
    obtain rfl := spells.unique spells'
    exact ⟨rfl, rfl⟩
  all_goals exact absurd h.1 (by decide)

theorem head?_words_append (g : Given) (s : List String) :
    ∃ option ∈ reserved, (g.words ++ s).head? = some option := by
  cases g with
  | config path => exact ⟨"--config", by decide, rfl⟩
  | server path => exact ⟨"--server", by decide, rfl⟩
  | timeout value secs spells => exact ⟨"--timeout", by decide, rfl⟩

end Given

/-- The words are these options and then this command. -/
structure IsReading (words : List String) (given : List Given) (command : List String) : Prop where
  words : words = given.flatMap Given.words ++ command
  command : ∃ first rest, command = first :: rest ∧ first ∉ reserved

/-- The arguments that these options and this command add to others. -/
def gather (a : Arguments) (given : List Given) (command : List String) : Arguments :=
  { given.foldl Given.apply a with command }

variable {words command command' rest : List String} {given given' : List Given}
  {a b : Arguments} {first : String}

theorem parseFrom_given (a : Arguments) (g : Given) (rest : List String) :
    parseFrom a (g.words ++ rest) = parseFrom (g.apply a) rest := by
  cases g with
  | config path => rfl
  | server path => rfl
  | timeout value secs spells =>
      rw [Given.words, List.cons_append, List.singleton_append, parseFrom, spells.read]
      rfl

theorem parseFrom_command (a : Arguments) (h : first ∉ reserved) (rest : List String) :
    parseFrom a (first :: rest) = .ok { a with command := first :: rest } := by
  simp only [reserved, List.mem_cons, List.not_mem_nil, or_false, not_or] at h
  simp [parseFrom, h]

theorem IsReading.parseFrom (h : IsReading words given command) (a : Arguments) :
    parseFrom a words = .ok (gather a given command) := by
  obtain ⟨rfl, first, rest, rfl, hFirst⟩ := h
  induction given generalizing a with
  | nil => exact parseFrom_command a hFirst rest
  | cons g given ih =>
      rw [List.flatMap_cons, List.append_assoc, parseFrom_given]
      exact ih (g.apply a)

theorem IsReading.cons (h : IsReading rest given command) (g : Given) :
    IsReading (g.words ++ rest) (g :: given) command := by
  refine ⟨?_, h.command⟩
  rw [h.words, List.flatMap_cons, List.append_assoc]

theorem exists_reading (h : parseFrom a words = .ok b) :
    ∃ given command, IsReading words given command ∧ b = gather a given command := by
  fun_induction parseFrom a words with
  | case5 a path rest ih =>
      obtain ⟨given, command, hReading, rfl⟩ := ih h
      exact ⟨_, command, hReading.cons (.config path), rfl⟩
  | case6 a path rest ih =>
      obtain ⟨given, command, hReading, rfl⟩ := ih h
      exact ⟨_, command, hReading.cons (.server path), rfl⟩
  | case7 a value rest secs hRead ih =>
      obtain ⟨given, command, hReading, rfl⟩ := ih h
      exact ⟨_, command, hReading.cons (.timeout value secs (Decimal.spells_of_read hRead)), rfl⟩
  | case11 a words hSome hConfig hServer hTimeout hConfig' hServer' hTimeout' hShort hHelp =>
      -- the first word is no option: with a value behind it or without, that was ruled out
      obtain rfl := Except.ok.inj h
      refine ⟨[], words, ⟨rfl, ?_⟩, rfl⟩
      cases words with
      | nil => exact absurd rfl hSome
      | cons first rest =>
          refine ⟨first, rest, rfl, fun hMem => ?_⟩
          simp only [reserved, List.mem_cons, List.not_mem_nil, or_false] at hMem
          rcases hMem with rfl | rfl | rfl | rfl | rfl
          · cases rest with
            | nil => exact hConfig rfl
            | cons path rest => exact hConfig' path rest rfl
          · cases rest with
            | nil => exact hServer rfl
            | cons path rest => exact hServer' path rest rfl
          · cases rest with
            | nil => exact hTimeout rfl
            | cons value rest => exact hTimeout' value rest rfl
          · exact hShort rest rfl
          · exact hHelp rest rfl
  | _ => cases h

/-- A command does not begin with an option. -/
theorem IsReading.words_append_ne (h : IsReading words given command) (g : Given)
    (s : List String) : g.words ++ s ≠ command := by
  intro hEq
  obtain ⟨option, hMem, hHead⟩ := g.head?_words_append s
  obtain ⟨first, rest, hCommand, hFirst⟩ := h.command
  rw [hEq, hCommand, List.head?_cons] at hHead
  exact hFirst (Option.some.inj hHead ▸ hMem)

theorem IsReading.unique (h : IsReading words given command)
    (h' : IsReading words given' command') : given = given' ∧ command = command' := by
  have hWords := h.words.symm.trans h'.words
  induction given generalizing words given' with
  | nil =>
      cases given' with
      | nil => exact ⟨rfl, hWords⟩
      | cons g' given' =>
          rw [List.flatMap_cons, List.append_assoc] at hWords
          exact absurd hWords.symm (h.words_append_ne g' _)
  | cons g given ih =>
      cases given' with
      | nil =>
          rw [List.flatMap_cons, List.append_assoc] at hWords
          exact absurd hWords (h'.words_append_ne g _)
      | cons g' given' =>
          rw [List.flatMap_cons, List.flatMap_cons, List.append_assoc, List.append_assoc] at hWords
          obtain ⟨rfl, hRest⟩ := Given.words_append_inj hWords
          obtain ⟨rfl, rfl⟩ := ih ⟨rfl, h.command⟩ ⟨hRest, h'.command⟩ hRest
          exact ⟨rfl, rfl⟩

/-- What the last of the options gives that gives anything of the kind. -/
def lastGiven {α : Type} (given : List Given) (given? : Given → Option α) : Option α :=
  (given.filterMap given?).getLast?

theorem foldl_apply {α : Type} (field : Arguments → Option α) (given? : Given → Option α)
    (hStep : ∀ a g, field (Given.apply a g) = (given? g).or (field a)) (a : Arguments)
    (given : List Given) :
    field (given.foldl Given.apply a) = (lastGiven given given?).or (field a) := by
  induction given generalizing a with
  | nil => rfl
  | cons g given ih =>
      rw [List.foldl_cons, ih, hStep, lastGiven, lastGiven, List.filterMap_cons]
      cases given? g with
      | none => rfl
      | some x => cases h : (given.filterMap given?).getLast? <;> simp [h, List.getLast?_cons]

theorem gather_eq :
    gather {} given command =
      { config := lastGiven given Given.config?, server := lastGiven given Given.server?
        timeoutSecs := lastGiven given Given.secs?, command } := by
  have hConfig := foldl_apply config Given.config? (fun _ _ => rfl) {} given
  have hServer := foldl_apply server Given.server? (fun _ _ => rfl) {} given
  have hSecs := foldl_apply timeoutSecs Given.secs? (fun _ _ => rfl) {} given
  simp only [Option.or_none] at hConfig hServer hSecs
  rw [gather, hConfig, hServer, hSecs]

/-- Arguments are read exactly if they are options and then a command. What is read is the command,
as it stands, and of each option what was given last; and there is no other way to take the
arguments apart. -/
theorem parse_reads_grammar (words : List String) :
    ((∃ a, parse words = .ok a) ↔ ∃ given command, IsReading words given command) ∧
      (∀ given command, IsReading words given command →
        parse words = .ok
          { config := lastGiven given Given.config?, server := lastGiven given Given.server?
            timeoutSecs := lastGiven given Given.secs?, command }) ∧
      ∀ given given' command command', IsReading words given command →
        IsReading words given' command' → given = given' ∧ command = command' := by
  refine ⟨⟨?_, ?_⟩, ?_, fun _ _ _ _ => IsReading.unique⟩
  · rintro ⟨a, hParse⟩
    obtain ⟨given, command, hReading, -⟩ := exists_reading hParse
    exact ⟨given, command, hReading⟩
  · rintro ⟨given, command, hReading⟩
    exact ⟨_, hReading.parseFrom {}⟩
  · intro given command hReading
    rw [← gather_eq]
    exact hReading.parseFrom {}

/-- Values that look like options, an option that is given twice, and options in the command. -/
theorem parse_looks_like_options :
    ∃ fives : Decimal.Spells "+05" 5,
      IsReading
          ["--timeout", "+05", "--server", "--help", "--config", "a", "--config", "--config",
            "get", "--timeout", "-h"]
          [.timeout "+05" 5 fives, .server "--help", .config "a", .config "--config"]
          ["get", "--timeout", "-h"] ∧
        parse
            ["--timeout", "+05", "--server", "--help", "--config", "a", "--config", "--config",
              "get", "--timeout", "-h"] =
          .ok
            { config := some "--config", server := some "--help", timeoutSecs := some 5
              command := ["get", "--timeout", "-h"] } := by
  have fives : Decimal.Spells "+05" 5 := Decimal.spells_of_read rfl
  have hReading : IsReading
      ["--timeout", "+05", "--server", "--help", "--config", "a", "--config", "--config",
        "get", "--timeout", "-h"]
      [.timeout "+05" 5 fives, .server "--help", .config "a", .config "--config"]
      ["get", "--timeout", "-h"] :=
    ⟨rfl, "get", ["--timeout", "-h"], rfl, by decide⟩
  exact ⟨fives, hReading, (parse_reads_grammar _).2.1 _ _ hReading⟩

end DocWire.Arguments

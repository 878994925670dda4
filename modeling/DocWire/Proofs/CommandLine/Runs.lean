import DocWire.Proofs.Client.Verbs
import DocWire.Proofs.CommandLine.Arguments

/-! The words of a command and its target are looked at before the request is made, and the answer
to that is printed when nothing is left that may fail. -/

namespace DocWire

namespace Command

/-- The words name the command. Words behind those that it takes are left open. -/
inductive Names : List String → Command → Prop where
  | version (more : List String) : Names ("version" :: more) .version
  | insert (db word : String) (doc : Json.Value) (more : List String)
      (hParse : Json.parseText word = .ok doc) :
      Names ("insert" :: db :: word :: more) (.database ⟨db⟩ (.insert doc))
  | get (db docid : String) (more : List String) :
      Names ("get" :: db :: docid :: more) (.database ⟨db⟩ (.get docid))
  | delete (db docid : String) (more : List String) :
      Names ("delete" :: db :: docid :: more) (.database ⟨db⟩ (.delete docid))
  | schema (db : String) : Names ["schema", db] (.database ⟨db⟩ .schema)
  | setSchema (db word : String) (doc : Json.Value) (more : List String)
      (hParse : Json.parseText word = .ok doc) :
      Names ("schema" :: db :: word :: more) (.database ⟨db⟩ (.setSchema doc))
  | raw (word target : String) (method : Method) (hMethod : Method.parse? word = some method) :
      Names ["raw", word, target] (.raw method target "")
  | rawBody (word target body : String) (method : Method) (more : List String)
      (hMethod : Method.parse? word = some method) :
      Names ("raw" :: word :: target :: body :: more) (.raw method target body)

variable {words more : List String} {command : Command} {word : String}

theorem document_eq_ok_iff {doc : Json.Value} :
    document word = .ok doc ↔ Json.parseText word = .ok doc := by
  unfold document
  cases Json.parseText word <;> simp [Except.mapError]

theorem parse_of_names (h : Names words command) : parse words = .ok command := by
  cases h with
  | version more => rfl
  | insert db word doc more hParse => simp [parse, document_eq_ok_iff.2 hParse]
  | get db docid more => rfl
  | delete db docid more => rfl
  | schema db => rfl
  | setSchema db word doc more hParse => simp [parse, document_eq_ok_iff.2 hParse]
  | raw word target method hMethod => simp [parse, hMethod]
  | rawBody word target body method more hMethod => simp [parse, hMethod]

theorem names_of_parse (h : parse words = .ok command) : Names words command := by
  unfold parse at h
  split at h
  · cases h
  next more =>
    obtain rfl := Except.ok.inj h
    exact .version more
  next db word more =>
    obtain ⟨doc, hDoc, hSame⟩ := bind_eq_ok_iff.1 h
    obtain rfl := Except.ok.inj hSame
    exact .insert db word doc more (document_eq_ok_iff.1 hDoc)
  next db docid more =>
    obtain rfl := Except.ok.inj h
    exact .get db docid more
  next db docid more =>
    obtain rfl := Except.ok.inj h
    exact .delete db docid more
  next db word more =>
    obtain ⟨doc, hDoc, hSame⟩ := bind_eq_ok_iff.1 h
    obtain rfl := Except.ok.inj hSame
    exact .setSchema db word doc more (document_eq_ok_iff.1 hDoc)
  next db =>
    obtain rfl := Except.ok.inj h
    exact .schema db
  next word rest =>
    split at h
    · cases h
    · cases h
    next method target hMethod =>
      obtain rfl := Except.ok.inj h
      exact .raw word target method hMethod
    next method target body more hMethod =>
      obtain rfl := Except.ok.inj h
      exact .rawBody word target body method more hMethod
  · split at h <;> cases h

/-- How many words a command takes that begins with this one. A word that begins no command takes no
other. -/
def arity (word : String) : Nat :=
  if word ∈ ["insert", "get", "delete", "schema"] then 3
  else if word = "raw" then 4
  else 1

theorem parse_of_unknown
    (h : word ∉ ["version", "insert", "get", "delete", "schema", "raw"]) (more : List String) :
    parse (word :: more) = .error (.unknownCommand word) := by
  simp only [List.mem_cons, List.not_mem_nil, or_false, not_or] at h
  obtain ⟨hVersion, hInsert, hGet, hDelete, hSchema, hRaw⟩ := h
  simp [parse, hInsert, hGet, hDelete, hSchema, hRaw]

/-- Words that a command does not take do not change how it is read. -/
theorem parse_append (h : arity word ≤ (word :: more).length) (surplus : List String) :
    parse (word :: more ++ surplus) = parse (word :: more) := by
  unfold arity at h
  split at h
  next hThree =>
    obtain ⟨db, third, rest, rfl⟩ : ∃ db third rest, more = db :: third :: rest := by
      match more, h with
      | db :: third :: rest, _ => exact ⟨db, third, rest, rfl⟩
    simp only [List.mem_cons, List.not_mem_nil, or_false] at hThree
    rcases hThree with rfl | rfl | rfl | rfl <;> rfl
  next hNotThree =>
    split at h
    next hFour =>
      obtain ⟨method, target, body, rest, rfl⟩ :
          ∃ method target body rest, more = method :: target :: body :: rest := by
        match more, h with
        | method :: target :: body :: rest, _ => exact ⟨method, target, body, rest, rfl⟩
      subst hFour
      cases hMethod : Method.parse? method <;> simp [parse, hMethod]
    next hNotFour =>
      by_cases hVersion : word = "version"
      · subst hVersion
        rfl
      · have hUnknown : word ∉ ["version", "insert", "get", "delete", "schema", "raw"] := by
          simp only [List.mem_cons, List.not_mem_nil, or_false, not_or] at hNotThree ⊢
          tauto
        rw [List.cons_append, parse_of_unknown hUnknown, parse_of_unknown hUnknown]

/-- Nothing keeps the command from being sent: no component is one dot or two, and a target that is
given as it is holds no space. -/
def Sendable : Command → Prop
  | .version => True
  | .database db what => "." ∉ what.components db.name ∧ ".." ∉ what.components db.name
  | .raw _ target _ => ' ' ∉ target.toList

/-- What a command asks of the server. -/
def question : Command → Question
  | .version => ⟨.get, "version", []⟩
  | .database db what => what.question (Target.text (Target.pathOf (what.components db.name)))
  | .raw method target body => ⟨method, target, Utf8.encode body⟩

end Command

namespace Stage

variable {σ α β : Type} {first : Stage σ α} {next : α → Stage σ β}

/-- What prints at most adds nothing to what was done. -/
theorem bind_trace (hIdle : ∀ a c, (next a c).trace = []) (c : Client σ) :
    ((first >>= next) c).trace = (first c).trace := by
  change (andThen first next c).trace = _
  unfold andThen
  dsimp only
  split
  · rfl
  · rfl
  · rw [hIdle, List.append_nil]

/-- The stage has come to a result, or it has printed nothing. -/
def PrintsLast (stage : Stage σ α) : Prop :=
  ∀ c, (∃ a, (stage c).result = some (.ok a)) ∨ (stage c).printed = ""

def PrintsNothing (stage : Stage σ α) : Prop :=
  ∀ c, (stage c).printed = ""

theorem PrintsNothing.printsLast (h : PrintsNothing first) : PrintsLast first :=
  fun c => .inr (h c)

theorem lift_printsNothing (result : Except RunFailure α) :
    PrintsNothing (lift result : Stage σ α) :=
  fun _ => rfl

theorem ask_printsNothing (call : Client σ → Outcome σ α) : PrintsNothing (ask call) :=
  fun _ => rfl

/-- Printing does not fail. -/
theorem printLine_printsLast (s : String) : PrintsLast (printLine s : Stage σ Unit) :=
  fun _ => .inl ⟨(), rfl⟩

/-- Stages that print nothing may come before one that prints. -/
theorem PrintsNothing.bind (hFirst : PrintsNothing first) (hNext : ∀ a, PrintsLast (next a)) :
    PrintsLast (first >>= next) := by
  intro c
  change (∃ b, (andThen first next c).result = some (.ok b)) ∨ (andThen first next c).printed = ""
  unfold andThen
  dsimp only
  split
  · exact .inr (hFirst c)
  · exact .inr (hFirst c)
  next a _ =>
    refine (hNext a _).imp id fun hNothing => ?_
    rw [hFirst c, hNothing]
    rfl

end Stage

namespace Command

open Stage (PrintsLast printLine_printsLast lift_printsNothing ask_printsNothing bind_trace)

variable {σ : Type}

theorem showResponse_trace (response : Response) (client : Client σ) :
    (showResponse response client).trace = [] := by
  cases response <;> rfl

theorem showResponse_printsLast (response : Response) :
    PrintsLast (showResponse response : Stage σ Unit) := by
  cases response with
  | text s => exact printLine_printsLast s
  | document doc => exact printLine_printsLast doc.pretty
  | failure f => exact (lift_printsNothing _).printsLast

variable [Transport σ] {client : Client σ} {command : Command}

/-- The answer to the one question of a command is printed, if at all, when nothing is left that may
fail. -/
theorem execute_printsLast (command : Command) : PrintsLast (execute command : Stage σ Unit) := by
  cases command with
  | version => exact (ask_printsNothing _).bind printLine_printsLast
  | database db what =>
      cases what with
      | insert doc => exact (ask_printsNothing _).bind printLine_printsLast
      | get docid => exact (ask_printsNothing _).bind fun doc => printLine_printsLast doc.pretty
      | delete docid => exact (ask_printsNothing _).printsLast
      | schema => exact (ask_printsNothing _).bind fun doc => printLine_printsLast doc.pretty
      | setSchema doc => exact (ask_printsNothing _).printsLast
  | raw method target body => exact (ask_printsNothing _).bind showResponse_printsLast

theorem run_printsLast (words : List String) : PrintsLast (run words : Stage σ Unit) :=
  (lift_printsNothing _).bind execute_printsLast

/-- Each verb of a database does what the call does that it makes. -/
theorem execute_database_trace (db : Database) (what : DatabaseCall) (client : Client σ) :
    (execute (.database db what) client).trace = (db.call client what).trace := by
  cases what with
  | insert doc => exact (bind_trace (fun _ _ => rfl) client).trans (Outcome.andThen_trace _ _)
  | get docid => exact (bind_trace (fun _ _ => rfl) client).trans (Outcome.andThen_trace _ _)
  | delete docid => exact Outcome.andThen_trace _ _
  | schema => exact (bind_trace (fun _ _ => rfl) client).trans (Outcome.andThen_trace _ _)
  | setSchema doc => exact Outcome.andThen_trace _ _

theorem execute_version_trace (client : Client σ) :
    (execute .version client).trace =
      (client.connection.sendWait .get "version" [] client.timeout).trace := by
  have hAsk : (execute .version client).trace = client.version.trace :=
    bind_trace (fun _ _ => rfl) client
  rw [hAsk, Client.version, Client.request, Outcome.andThen_trace, Outcome.andThen_trace]

theorem execute_raw_trace (method : Method) (target body : String) (client : Client σ) :
    (execute (.raw method target body) client).trace =
      (client.connection.sendWait method target (Utf8.encode body) client.timeout).trace :=
  bind_trace showResponse_trace client

theorem written_execute (hOpen : client.connection.closed = false) (h : command.Sendable) :
    written (command.execute client).trace =
      [(command.question.numbered client.connection.nextId).encode] := by
  cases command with
  | version =>
      rw [execute_version_trace, Connection.written_sendWait, hOpen]
      rfl
  | database db what =>
      rw [execute_database_trace, Database.written_call hOpen]
      · rfl
      · intro component hMem
        rw [Bool.eq_false_iff, Ne, Target.isDot_iff]
        rintro (rfl | rfl)
        · exact h.1 hMem
        · exact h.2 hMem
  | raw method target body =>
      rw [execute_raw_trace, Connection.written_sendWait, hOpen, List.contains_eq_mem,
        decide_eq_false h]
      rfl

theorem written_execute_of_not_sendable (h : ¬ command.Sendable) :
    written (command.execute client).trace = [] := by
  cases command with
  | version => exact absurd trivial h
  | database db what =>
      have hDots : "." ∈ what.components db.name ∨ ".." ∈ what.components db.name := by
        rwa [Sendable, ← not_or, Classical.not_not] at h
      obtain ⟨fault, hBuild⟩ := Target.build_eq_error_iff.2 hDots
      rw [execute_database_trace, Database.call, hBuild]
      rfl
  | raw method target body =>
      have hSpace : ' ' ∈ target.toList := Decidable.not_not.1 h
      rw [execute_raw_trace, Connection.written_sendWait, List.contains_eq_mem,
        decide_eq_true hSpace, Bool.or_true, if_pos rfl]

theorem run_of_names {words : List String} (h : Names words command) :
    run words client = execute command client := by
  change Stage.andThen (Stage.lift (parse words)) execute client = _
  rw [parse_of_names h]
  rfl

theorem run_trace_of_error {words : List String} {failure : RunFailure}
    (h : parse words = .error failure) : (run words client).trace = [] := by
  change (Stage.andThen (Stage.lift (parse words)) execute client).trace = []
  rw [h]
  rfl

end Command

namespace Arguments

variable {words : List String} {a : Arguments}

/-- Words behind the others are words of the command. -/
theorem parse_append (h : parse words = .ok a) (surplus : List String) :
    parse (words ++ surplus) = .ok { a with command := a.command ++ surplus } := by
  obtain ⟨given, command, hReading, rfl⟩ := exists_reading h
  obtain ⟨first, rest, rfl, hFirst⟩ := hReading.command
  have hLonger : IsReading (words ++ surplus) given (first :: rest ++ surplus) := by
    refine ⟨?_, first, rest ++ surplus, rfl, hFirst⟩
    rw [hReading.words, List.append_assoc]
  exact hLonger.parseFrom {}

end Arguments

namespace Run

/-- All bytes that a run writes are those of its writes. -/
theorem written_eq_flatten (r : Run) : r.written = (DocWire.written r.trace).flatten := by
  unfold Run.written DocWire.written
  induction r.trace with
  | nil => rfl
  | cons e events ih =>
      rw [List.flatMap_cons, ih]
      cases e <;> rfl

variable {σ : Type} [Transport σ] {words : List String} {command : Command}

theorem written_close (c : Connection σ) : DocWire.written c.close.trace = [] :=
  c.close_follows.course.written_eq_nil

theorem written_onTransport (c : Config) (transport : σ) (words : List String) :
    DocWire.written (onTransport c words transport).trace =
      DocWire.written (Command.run words (c.client transport)).trace := by
  change DocWire.written (_ ++ _) = _
  rw [written_append, written_close, List.append_nil]

theorem written_onTransport_of_names (c : Config) (transport : σ)
    (hNames : Command.Names words command) (hSendable : command.Sendable) :
    DocWire.written (onTransport c words transport).trace =
      [(command.question.numbered 0).encode] := by
  rw [written_onTransport, Command.run_of_names hNames]
  exact Command.written_execute rfl hSendable

theorem written_onTransport_of_not_sendable (c : Config) (transport : σ)
    (h : ∀ command, Command.Names words command → ¬ command.Sendable) :
    DocWire.written (onTransport c words transport).trace = [] := by
  rw [written_onTransport]
  cases hParse : Command.parse words with
  | error f =>
      rw [Command.run_trace_of_error hParse]
      rfl
  | ok command =>
      have hNames := Command.names_of_parse hParse
      rw [Command.run_of_names hNames]
      exact Command.written_execute_of_not_sendable (h command hNames)

variable {s : Surroundings} {start : String → List String → Except IoError σ} {a : Arguments}
  {c : Config} {transport : σ} {q : Question}

/-- The arguments are read, there are settings, the server is started, and the words of the command
name one that can be sent, which asks this question. -/
def Asks (s : Surroundings) (start : String → List String → Except IoError σ)
    (words : List String) (q : Question) : Prop :=
  ∃ a c transport command, Arguments.parse words = .ok a ∧ a.settings s = .ok c ∧
    start c.serverPath c.serverArgs = .ok transport ∧ Command.Names a.command command ∧
    command.Sendable ∧ q = command.question

theorem of_eq_onTransport (hParse : Arguments.parse words = .ok a)
    (hSettings : a.settings s = .ok c)
    (hStart : start c.serverPath c.serverArgs = .ok transport) :
    of s start words = onTransport c a.command transport := by
  simp only [of, hParse, hSettings, hStart]

theorem written_of_asks (h : Asks s start words q) :
    DocWire.written (of s start words).trace = [(q.numbered 0).encode] := by
  obtain ⟨a, c, transport, command, hParse, hSettings, hStart, hNames, hSendable, rfl⟩ := h
  rw [of_eq_onTransport hParse hSettings hStart]
  exact written_onTransport_of_names c transport hNames hSendable

theorem written_of_not_asks (h : ∀ q, ¬ Asks s start words q) :
    DocWire.written (of s start words).trace = [] := by
  unfold of
  split
  · rfl
  next a hParse =>
    split
    · rfl
    next c hSettings =>
      split
      · rfl
      next transport hStart =>
        apply written_onTransport_of_not_sendable
        intro command hNames hSendable
        exact h _ ⟨a, c, transport, command, hParse, hSettings, hStart, hNames, hSendable, rfl⟩

/-- A run that has not succeeded has printed nothing. -/
theorem printed_of (s : Surroundings) (start : String → List String → Except IoError σ)
    (words : List String) :
    (of s start words).result = some (.ok ()) ∨ (of s start words).printed = "" := by
  unfold of
  split
  · exact .inr rfl
  next a _ =>
    split
    · exact .inr rfl
    next c _ =>
      split
      · exact .inr rfl
      next transport _ =>
        have hLast := Command.run_printsLast a.command (c.client transport)
        exact hLast.imp_left fun ⟨_, hDone⟩ => hDone

/-- A report of a failure shows what the run has printed. -/
theorem failed_of_report {r : Run} {report : Report} (hReport : r.report = some report)
    (hFails : report.exitCode ≠ 0) : r.result ≠ some (.ok ()) ∧ report.stdout = r.printed := by
  obtain ⟨result, hResult, rfl⟩ := Option.map_eq_some_iff.1 hReport
  cases result with
  | ok _ => exact absurd rfl hFails
  | error f => exact ⟨by simp [hResult], rfl⟩

theorem of_append (hParse : Arguments.parse words = .ok a) {first : String} {rest : List String}
    (hCommand : a.command = first :: rest) (hFull : Command.arity first ≤ a.command.length)
    (surplus : List String) : of s start (words ++ surplus) = of s start words := by
  have hWords : Command.parse (a.command ++ surplus) = Command.parse a.command := by
    rw [hCommand] at hFull ⊢
    exact Command.parse_append hFull surplus
  have hRun : (Command.run (a.command ++ surplus) : Stage σ Unit) = Command.run a.command := by
    rw [Command.run, Command.run, hWords]
  have hSettings : ({ a with command := a.command ++ surplus } : Arguments).settings s =
      a.settings s := rfl
  unfold of
  rw [Arguments.parse_append hParse, hParse]
  dsimp only
  rw [hSettings]
  simp only [onTransport, hRun]

/-- Whatever the words, the surroundings and the server are: a run hands one frame to the transport,
that of the request number 0 for its question, if it comes to ask one, and else it writes no byte. A
run that fails has printed nothing by then, and neither has one that still awaits its answer. Once a
command has all the words that it takes, words behind them change nothing in the run. -/
theorem asks_once_and_prints_only_success (s : Surroundings)
    (start : String → List String → Except IoError σ) (words : List String) :
    let run := of s start words
    (∀ q, Asks s start words q → DocWire.written run.trace = [(q.numbered 0).encode]) ∧
      ((∀ q, ¬ Asks s start words q) → run.written = []) ∧
      (∀ report, run.report = some report → report.exitCode ≠ 0 → report.stdout = "") ∧
      (run.report = none → run.printed = "") ∧
      ∀ a first rest surplus, Arguments.parse words = .ok a → a.command = first :: rest →
        Command.arity first ≤ a.command.length → of s start (words ++ surplus) = run := by
  intro run
  have hPrinted : run.result = some (.ok ()) ∨ run.printed = "" := printed_of s start words
  refine ⟨fun q => written_of_asks, ?_, ?_, ?_, ?_⟩
  · intro hSilent
    rw [written_eq_flatten, written_of_not_asks hSilent]
    rfl
  · intro report hReport hFails
    obtain ⟨hNot, hShown⟩ := failed_of_report hReport hFails
    exact hShown.trans (hPrinted.resolve_left hNot)
  · intro hAwaits
    have hNoResult : run.result = none := Option.map_eq_none_iff.1 hAwaits
    exact hPrinted.resolve_left (by simp [hNoResult])
  · intro a first rest surplus hParse hCommand hFull
    exact of_append hParse hCommand hFull surplus

/-- Surroundings without variables and files. -/
def bare : Surroundings :=
  { valueOf? := fun _ => none
    accountHome := none
    readFile := fun _ => .error .noSuchFile
    fileExists := fun _ => false }

/-- A server that takes requests and whose answers cannot be read. -/
def unreadable (_ : String) (_ : List String) : Except IoError Script :=
  .ok {}

/-- A server that answers the first request. -/
def answering (answer : String) (_ : String) (_ : List String) : Except IoError Script :=
  .ok { reads := [.ok (Reply.encode "0" (Utf8.encode answer))] }

/-- A run that asks and fails, the same run with a surplus word, and one that does not ask. Of two
runs that are answered, one prints the answer, and one is refused and prints nothing. -/
theorem asks_once_and_prints_only_success_unreadable :
    let run := of bare unreadable ["get", "x", "7"]
    let refused := of bare (answering "E\x7b\"msg\":\"no\"\x7d") ["raw", "get", "x"]
    DocWire.written run.trace = [Request.encode ⟨"0", .get, "db/x/docs/7", []⟩] ∧
      (∃ report, run.report = some report ∧ report.exitCode = 1 ∧ report.stdout = "") ∧
      of bare unreadable ["get", "x", "7", "--config"] = run ∧
      (of bare unreadable ["get", "x", ".."]).written = [] ∧
      (of bare (answering "Sfound") ["raw", "get", "x"]).report = some ⟨0, "found\n", ""⟩ ∧
      refused.report = some ⟨1, "", "Error: no (server)\n"⟩ := by
  intro run refused
  obtain ⟨hAsks, -, hPrints, -, hSurplus⟩ :=
    asks_once_and_prints_only_success bare unreadable ["get", "x", "7"]
  have hSendable : (Command.database ⟨"x"⟩ (.get "7")).Sendable := by
    show "." ∉ _ ∧ ".." ∉ _
    decide
  obtain ⟨report, hReport, hCode⟩ : ∃ report, run.report = some report ∧ report.exitCode = 1 :=
    ⟨_, rfl, rfl⟩
  refine ⟨?_, ⟨report, hReport, hCode, ?_⟩, ?_, ?_, by decide +kernel, by decide +kernel⟩
  · have hWritten := hAsks _ ⟨_, _, _, _, rfl, rfl, rfl, .get "x" "7" [], hSendable, rfl⟩
    exact hWritten.trans (by decide +kernel)
  · exact hPrints report hReport (by simp [hCode])
  · exact hSurplus _ "get" ["x", "7"] ["--config"] rfl rfl (by decide)
  · apply (asks_once_and_prints_only_success bare unreadable ["get", "x", ".."]).2.1
    rintro q ⟨a, c, transport, command, hParse, -, -, hNames, hSendable, -⟩
    obtain rfl := Except.ok.inj hParse
    have hRead : .ok (.database ⟨"x"⟩ (.get "..")) = Except.ok command :=
      Command.parse_of_names hNames
    obtain rfl := Except.ok.inj hRead
    exact hSendable.2 (by decide)

end Run

end DocWire

import DocWire.CommandLine
import DocWire.Transport.Exchange

/-! The program makes the run on what the server has sent so far until it has a report. The server
is whoever holds the other side of the file that the settings name. -/

namespace DocWire.Main

/-- The failure of a call to the operating system. -/
def failureOf : IO.Error → IoError
  | .noFileOrDirectory .. => .noSuchFile
  | e => ⟨.other, e.toString⟩

/-- The result of a call to the operating system. -/
def attempt {α : Type} (act : IO α) : IO (Except IoError α) := do
  try return .ok (← act) catch e => return .error (failureOf e)

/-- The variables that a run looks at. -/
def bindings : IO (List (String × String)) := do
  let names := ["HOME", "XDG_CONFIG_HOME", pathVariable, timeoutVariable]
  let values ← names.mapM fun name => do return (name, ← IO.getEnv name)
  return values.filterMap fun (name, value) => value.map (name, ·)

/-- The surroundings in which one file is known. -/
def surroundings (bindings : List (String × String)) (path : String)
    (contents : Except IoError Bytes) : Surroundings :=
  let contentsOf (p : String) := if p = path then contents else .error .noSuchFile
  { valueOf? := fun name => bindings.lookup name
    accountHome := none
    readFile := contentsOf
    fileExists := fun p => match contentsOf p with
      | .error e => e.kind ≠ .notFound
      | .ok _ => true }

/-- Gathers the surroundings of a run. -/
def gather (words : List String) : IO Surroundings := do
  let bindings ← bindings
  let path := (Run.settingsFile? (surroundings bindings "" (.error .noSuchFile)) words).getD ""
  let contents ← attempt (IO.FS.readBinFile path)
  return surroundings bindings path (contents.map (·.toList))

/-- How many bytes are read from the server at a time. -/
def pieceSize : USize := 4096

/-- Makes the run on a longer and longer exchange until it has a report. -/
partial def converse (server : IO.FS.Handle) (runOn : Exchange → Run) (start sent : Nat)
    (e : Exchange) (reading : Task (Except IO.Error ByteArray)) : IO (Option Report) := do
  let e := { e with elapsed := ((← IO.monoNanosNow) - start) }
  let run := runOn e
  let unsent := run.written.drop sent
  unless unsent.isEmpty do
    server.write ⟨unsent.toArray⟩
    server.flush
  let sent := run.written.length
  if run.report.isSome then return run.report
  if ← IO.hasFinished reading then
    match reading.get with
    | .error _ => converse server runOn start sent { e with ended := true } reading
    | .ok data =>
      let e := { e with received := e.received ++ data.toList, ended := data.isEmpty }
      converse server runOn start sent e (← IO.asTask (server.read pieceSize))
  else
    IO.sleep 5
    converse server runOn start sent e reading

/-- Makes a run and returns its report. -/
def run (words : List String) : IO (Option Report) := do
  let s ← gather words
  match Run.program? s words with
  | none => return (Run.of s (fun _ _ => .ok ({} : Exchange)) words).report
  | some program =>
    match ← attempt (IO.FS.Handle.mk program .readWrite) with
    | .error e =>
      return (Run.of s (fun _ _ => (.error e : Except IoError Exchange)) words).report
    | .ok server =>
      let runOn (e : Exchange) := Run.of s (fun _ _ => .ok e) words
      converse server runOn (← IO.monoNanosNow) 0 {} (← IO.asTask (server.read pieceSize))

end DocWire.Main

/-- Makes a run and prints its report. -/
def main (words : List String) : IO UInt32 := do
  match ← DocWire.Main.run words with
  | none => return 1
  | some report =>
    IO.print report.stdout
    IO.eprint report.stderr
    return report.exitCode.toUInt32

import DocWire.Config.Decode
import DocWire.Surroundings
import DocWire.Text.Blank

/-! Settings come in layers: the default ones, those of a file, and those of variables, each over
the ones before. -/

namespace DocWire

/-- The variable that names the server's program. -/
def pathVariable : String := "XAPRUN_PATH"

/-- The variable that sets the time limit. -/
def timeoutVariable : String := "XAPRUN_TIMEOUT_SECS"

/-- Why there are no settings. -/
inductive Config.Failure where
  | unreadable (path : String) (cause : IoError)
  | invalid (path : String) (fault : Json.Fault)
  | badTimeout (value : String) (fault : Decimal.Fault)

def Config.Failure.chain : Config.Failure → List String
  | .unreadable path cause => ["Failed to read config file " ++ path, cause.message]
  | .invalid path fault => ["Invalid config file " ++ path, fault.message]
  | .badTimeout value fault =>
    ["Invalid " ++ timeoutVariable ++ " value: " ++ value, fault.message]

namespace Surroundings

def home? (s : Surroundings) : Option String :=
  match s.valueOf? "HOME" with
  | some home => if home.isEmpty then s.accountHome else some home
  | none => s.accountHome

/-- The directory for settings: one that a variable names by an absolute path, or else a hidden one
in the home directory. -/
def configDirectory? (s : Surroundings) : Option String :=
  match (s.valueOf? "XDG_CONFIG_HOME").filter Path.isAbsolute with
  | some directory => some directory
  | none => s.home?.map (Path.join · ".config")

/-- The file that is read if none is given. -/
def defaultConfigPath? (s : Surroundings) : Option String :=
  s.configDirectory?.map fun d => Path.join (Path.join d "xaprun") "client.json"

/-- The failure to read a file that is no text. -/
def notAText : IoError :=
  ⟨.invalidData, "stream did not contain valid UTF-8"⟩

def readText (s : Surroundings) (path : String) : Except IoError String := do
  match Utf8.decode? (← s.readFile path) with
  | .ok text => return text
  | .error _ => throw notAText

end Surroundings

namespace Config

def load (s : Surroundings) (path : String) : Except Failure Config := do
  let contents ← (s.readText path).mapError (.unreadable path)
  (parse contents).mapError (.invalid path)

/-- The settings of a given file, or of the one that is read without any, if it exists. -/
def loadLayer (s : Surroundings) (path : Option String) : Except Failure Config :=
  match path with
  | some path => load s path
  | none =>
    match s.defaultConfigPath?.filter s.fileExists with
    | some path => load s path
    | none => .ok .default

/-- Puts the settings of variables over others. A blank program does not count; a time limit has to
be a number. -/
def withVariables (c : Config) (valueOf? : String → Option String) : Except Failure Config :=
  let c := match (valueOf? pathVariable).map Text.trim with
    | some path => if path.isEmpty then c else { c with serverPath := path }
    | none => c
  match valueOf? timeoutVariable with
  | none => .ok c
  | some value =>
    match Decimal.read (Text.trim value) with
    | .ok n => .ok { c with timeoutSecs := n }
    | .error fault => .error (.badTimeout value fault)

/-- The settings for a run: default ones, a file, variables. -/
def resolve (s : Surroundings) (path : Option String) : Except Failure Config := do
  (← loadLayer s path).withVariables s.valueOf?

end Config

end DocWire

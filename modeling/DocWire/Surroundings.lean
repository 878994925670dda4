import DocWire.IoError
import DocWire.Bytes
import DocWire.Text.Utf8

namespace DocWire

/-- The variables of a process, with the bytes of their values. -/
abbrev Environment : Type := String → Option Bytes

/-- The text that a variable holds. One whose value is no text counts as one that is not set. -/
def Environment.text? (env : Environment) (name : String) : Option String :=
  (env name).bind fun value => (Utf8.decode? value).toOption

/-- The variables and files around a run. -/
structure Surroundings where
  valueOf? : String → Option String
  /-- The home directory of the account, for runs without a variable that names one. -/
  accountHome : Option String
  readFile : String → Except IoError Bytes
  fileExists : String → Bool

namespace Path

/-- Whether a path does not depend on the working directory. -/
def isAbsolute (path : String) : Bool :=
  path.toList.head? = some '/'

/-- The path of an entry of a directory. -/
def join (directory entry : String) : String :=
  if isAbsolute entry then entry
  else if directory.isEmpty || directory.toList.getLast? = some '/' then directory ++ entry
  else directory ++ "/" ++ entry

end Path

end DocWire

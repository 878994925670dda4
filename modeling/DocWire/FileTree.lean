import DocWire.Surroundings

/-! Files and directories as a value, and what becomes of a path in them. Every name on a path but
the last has to lead to a directory. -/

namespace DocWire

/-- The files and directories of a run. All paths are given by their names from the root on. -/
structure FileTree where
  workingDirectory : List String
  /-- Files with their contents, and directories without. A directory exists too where something
  lies in it. -/
  entries : List (List String × Option Bytes)

/-- What a path leads to. -/
inductive FileTree.Node where
  | file (contents : Bytes)
  | directory
deriving DecidableEq, Repr

namespace FileTree

def nodeAt? (t : FileTree) (place : List String) : Option Node :=
  match t.entries.lookup place with
  | some (some contents) => some (.file contents)
  | some none => some .directory
  | none =>
    if place.isPrefixOf t.workingDirectory || t.entries.any fun e => place.isPrefixOf e.1 then
      some .directory
    else none

/-- The longest name and the longest path that a file system takes, in bytes. -/
def maxName : Nat := 255

/-- The length from which on a path is too long, in bytes. -/
def maxPath : Nat := 4096

/-- Follows the names of a path from the directory at `place`. -/
def walk (t : FileTree) (place : List String) (node : Node) : List String → Except IoError Node
  | [] => .ok node
  | name :: names =>
    match node with
    | .file _ => .error .notADirectory
    | .directory =>
      if maxName < (name.toList.flatMap String.utf8EncodeChar).length then .error .nameTooLong
      else
        let place :=
          if name = "." then place
          else if name = ".." then place.dropLast
          else place ++ [name]
        match t.nodeAt? place with
        | none => .error .noSuchFile
        | some node => walk t place node names

/-- The failure of naming a file by a text that no file can have as its name. -/
def unnameable : IoError :=
  ⟨.invalidInput, "file name contained an unexpected NUL byte"⟩

/-- What a path leads to. A slash at its end asks for a directory. -/
def find (t : FileTree) (path : String) : Except IoError Node :=
  if path.isEmpty then .error .noSuchFile
  else if path.toList.contains '\x00' then .error unnameable
  else if maxPath ≤ path.utf8ByteSize then .error .nameTooLong
  else
    let names := (path.splitOn "/").filter (· ≠ "")
    let names := if path.toList.getLast? = some '/' then names ++ ["."] else names
    walk t (if Path.isAbsolute path then [] else t.workingDirectory) .directory names

def read (t : FileTree) (path : String) : Except IoError Bytes :=
  match t.find path with
  | .ok (.file contents) => .ok contents
  | .ok .directory => .error .isADirectory
  | .error e => .error e

def exists? (t : FileTree) (path : String) : Bool :=
  match t.find path with
  | .ok _ => true
  | .error _ => false

/-- The surroundings of a run with these files and the given variables. -/
def surroundings (t : FileTree) (bindings : List (String × String)) : Surroundings :=
  { valueOf? := fun name => bindings.lookup name
    accountHome := none
    readFile := t.read
    fileExists := t.exists? }

end FileTree

end DocWire

import DocWire.Transport.Peer

namespace DocWire

/-- A place with servers. -/
structure Site where
  /-- The names by which the server can be started. -/
  programs : List String
  /-- The paths of the sockets that it listens on. -/
  sockets : List String
  script : List (List PeerAction)

namespace Site

/-- The failure of starting a program with a name or an argument that cannot be handed over. -/
def unusableArgument : IoError :=
  ⟨.invalidInput, "nul byte found in provided data"⟩

def start (s : Site) (program : String) (arguments : List String) :
    Except IoError (Stream Pipes) :=
  if (program :: arguments).any (·.toList.contains '\x00') then .error unusableArgument
  else if s.programs.contains program then
    .ok { ends := ⟨{ arguments, script := s.script }⟩, unblocks := false }
  else .error .noSuchFile

/-- The failure of connecting to a path that no socket can have. -/
def unusablePath : IoError :=
  ⟨.invalidInput, "paths must not contain interior null bytes"⟩

/-- The failure of connecting to a path that is too long for a socket. -/
def pathTooLong : IoError :=
  ⟨.invalidInput, "path must be shorter than SUN_LEN"⟩

/-- The length from which on a path is too long for a socket, in bytes. -/
def maxSocketPath : Nat := 108

def connect (s : Site) (path : String) : Except IoError (Stream Socket) :=
  if path.toList.contains '\x00' then .error unusablePath
  else if maxSocketPath ≤ path.utf8ByteSize then .error pathTooLong
  else if s.sockets.contains path then
    .ok { ends := ⟨{ script := s.script }⟩, unblocks := true }
  else .error .noSuchFile

end Site

end DocWire

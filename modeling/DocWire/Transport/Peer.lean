import DocWire.Transport.Loopback
import DocWire.Transport.Stream

/-! A server behind a stream, with answers that are fixed beforehand. It answers each request with
one write, and it is gone after its input has ended or its script tells it to. -/

namespace DocWire

/-- A part of what a peer writes in answer to a request. -/
inductive PeerAction where
  /-- A reply with an answer given as its bytes; it names the request, or another id. -/
  | reply (answer : Bytes) (id : Option String)
  /-- Bytes as they are. -/
  | raw (data : Bytes)
  /-- A reply that tells what was asked. -/
  | echo
  /-- A reply that tells with which arguments the peer was started. -/
  | arguments
  /-- Nothing; the peer is gone after this write. -/
  | exit
deriving DecidableEq, Repr

/-- A server at the other side of a stream. -/
structure Peer where
  arguments : List String := []
  /-- What to do on the requests to come. -/
  script : List (List PeerAction)
  decoder : Frame.Decoder := .empty
  running : Bool := true
  /-- What the client has not read yet. -/
  outbox : List Arrival := []

namespace Peer

/-- What an action writes in answer to a request. -/
def actionBytes (arguments : List String) (r : Request) : PeerAction → Bytes
  | .reply answer id => Reply.encode (id.getD r.id) answer
  | .raw data => data
  | .echo => Reply.encode r.id (Utf8.encode r.echo)
  | .arguments =>
    let items := Json.Value.array (arguments.map .string)
    Reply.encode r.id (Utf8.encode ("S" ++ items.compact))
  | .exit => []

/-- Ends the peer. What it has written can still be read. -/
def stop (p : Peer) : Peer :=
  if p.running then { p with running := false, outbox := p.outbox ++ [.endOfStream] } else p

/-- Answers the request in the body of a frame. A body that is no request is passed over. -/
def receive (p : Peer) (body : Bytes) : Peer :=
  match p.running, Request.parse? body with
  | true, some r =>
    let actions := p.script.head?.getD []
    let data := actions.flatMap (actionBytes p.arguments r)
    let outbox := if data.isEmpty then p.outbox else p.outbox ++ [.bytes data]
    let p := { p with script := p.script.tail, outbox }
    if actions.contains .exit then p.stop else p
  | _, _ => p

/-- The failure of writing to someone who is gone. -/
def gone : IoError :=
  ⟨.brokenPipe, "Broken pipe (os error 32)"⟩

/-- Takes what the client writes and answers the requests that are complete. -/
def write (data : Bytes) (p : Peer) : Except IoError Nat × Peer :=
  if !p.running then (.error gone, p)
  else
    let drained := (p.decoder.push data).drain
    (.ok data.length, drained.bodies.foldl receive { p with decoder := drained.decoder })

end Peer

/-- The pipes to a process. Giving up the writing end is the end of the peer's input. -/
structure Pipes where
  peer : Peer

instance : Ends Pipes where
  write data p := let (answer, peer) := Peer.write data p.peer; (answer, ⟨peer⟩)
  flush p := (.ok (), p)
  release p := ⟨p.peer.stop⟩
  unblock p := (.ok (), p)
  arrivals p := (p.peer.outbox, ⟨{ p.peer with outbox := [] }⟩)
  patience _ := 0

/-- A connected socket. Both directions end together, when the reading end is unblocked. -/
structure Socket where
  peer : Peer

instance : Ends Socket where
  write data p := let (answer, peer) := Peer.write data p.peer; (answer, ⟨peer⟩)
  flush p := (.ok (), p)
  release p := p
  unblock p := (.ok (), ⟨p.peer.stop⟩)
  arrivals p := (p.peer.outbox, ⟨{ p.peer with outbox := [] }⟩)
  patience _ := 0

end DocWire

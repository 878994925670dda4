import DocWire.Proofs.Frame.Messages
import DocWire.Proofs.Frame.Parsing
import DocWire.Transport.Loopback

/-! Only writes that are taken add to what the server of a loopback has seen. Reading, closing and
whatever the server does by itself leave that alone. -/

namespace DocWire

/-- What a server has seen of its client: all bytes, the requests found in them, and the decoder
with what is left over. -/
structure Record where
  written : Bytes
  requests : List Request
  decoder : Frame.Decoder
deriving DecidableEq, Repr

namespace Record

/-- The record of requests that came in one after the other. -/
def ofRequests (requests : List Request) : Record :=
  ⟨requests.flatMap Request.encode, requests, .empty⟩

/-- The record after more bytes have come in. -/
def take (k : Record) (data : Bytes) : Record :=
  let drained := (k.decoder.push data).drain
  ⟨k.written ++ data, k.requests ++ drained.bodies.filterMap Request.parse?, drained.decoder⟩

/-- A frame that comes in as one piece is taken off at once, whatever its body holds. -/
theorem drain_encode {body : Bytes} (h : body.length ≤ Frame.maxSize) :
    (Frame.Decoder.empty.push (Frame.encode body)).drain = ⟨[body], none, .empty⟩ := by
  have hBody : (Frame.Decoder.empty.push (Frame.encode body)).next =
      (.ok (some body), .empty) := by
    have hWhole := Frame.Decoder.next_of_whole_frame 0 [] h
    rwa [List.append_nil] at hWhole
  have hOver : Frame.Decoder.empty.next = (.ok none, .empty) := rfl
  rw [Frame.Decoder.drain_of_body hBody, Frame.Decoder.drain_of_waiting hOver]
  rfl

theorem take_encode {r : Request} (h : r.Readable) (requests : List Request) :
    (ofRequests requests).take r.encode = ofRequests (requests ++ [r]) := by
  have hDrained : (Frame.Decoder.empty.push r.encode).drain = ⟨[r.body], none, .empty⟩ :=
    drain_encode h.size
  have hTaken : (ofRequests requests).take r.encode =
      ⟨requests.flatMap Request.encode ++ r.encode,
        requests ++ [r.body].filterMap Request.parse?, .empty⟩ := by
    simp only [take, ofRequests, hDrained]
  rw [hTaken, List.filterMap_cons_some (Request.parse?_body h), List.filterMap_nil]
  simp [ofRequests]

end Record

namespace Loopback

/-- What the server has seen. -/
def record (l : Loopback) : Record :=
  ⟨l.written, l.requests, l.decoder⟩

/-- A change that the server can make by itself: it leaves what was seen alone. -/
def KeepsRecord (change : Loopback → Loopback) : Prop :=
  ∀ l, (change l).record = l.record

/-- The server touches its record by nothing that it does between two calls of the client. -/
theorem server_keepsRecord (data : Bytes) (id answer : String) (answers : List Answer) (n : Nat) :
    KeepsRecord (push · data) ∧ KeepsRecord (respond · id answer) ∧
      KeepsRecord (withAnswers · answers) ∧ KeepsRecord (inPiecesOf · n) ∧
      KeepsRecord hangUp ∧ KeepsRecord refuse :=
  ⟨fun _ => rfl, fun _ => rfl, fun _ => rfl, fun _ => rfl, fun _ => rfl, fun _ => rfl⟩

theorem foldl_receive_record (l : Loopback) (bodies : List Bytes) :
    (bodies.foldl receive l).record =
        ⟨l.written, l.requests ++ bodies.filterMap Request.parse?, l.decoder⟩ ∧
      (bodies.foldl receive l).refusing = l.refusing := by
  induction bodies generalizing l with
  | nil => simp [record]
  | cons body bodies ih =>
      obtain ⟨hRecord, hRefusing⟩ := ih (l.receive body)
      rw [List.foldl_cons, hRecord, hRefusing]
      cases hParsed : Request.parse? body with
      | none => simp [receive, hParsed]
      | some r => simp [receive, hParsed]

/-- A write is refused, or what was written is taken. -/
theorem write_record (l : Loopback) (data : Bytes) :
    (l.write data).2.record = (if l.refusing then l.record else l.record.take data) ∧
      (l.write data).2.refusing = l.refusing := by
  cases hRefusing : l.refusing with
  | true => simp [write, hRefusing]
  | false =>
      have hFold := foldl_receive_record { l with
        written := l.written ++ data, decoder := (l.decoder.push data).drain.decoder }
        (l.decoder.push data).drain.bodies
      rw [hRefusing] at hFold
      simp only [write, hRefusing, Bool.false_eq_true, if_false]
      split <;> exact hFold

theorem write_of_refusing {l : Loopback} (h : l.refusing = true) (data : Bytes) :
    (l.write data).1 = .error refusal := by
  simp [write, h]

theorem read_record (l : Loopback) (n : Nat) (deadline : Option Instant) :
    (l.read n deadline).2.record = l.record ∧ (l.read n deadline).2.refusing = l.refusing := by
  by_cases hEmpty : l.inbound = []
  · cases hHungUp : l.hungUp <;> cases deadline <;> simp [read, pass, hEmpty, hHungUp, record]
  · simp [read, pass, hEmpty, record]

end Loopback

end DocWire

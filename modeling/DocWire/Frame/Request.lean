import DocWire.Frame
import DocWire.Method

/-! The body of a request frame is the request's number, a space, the method's letter with the
target directly after it, another space, and the payload. -/

namespace DocWire

/-- A request as a server sees it. -/
structure Request where
  id : String
  method : Method
  target : String
  payload : Bytes
deriving DecidableEq, Repr

namespace Request

/-- The body of a request's frame. -/
def body (r : Request) : Bytes :=
  Utf8.encode r.id ++ Bytes.space :: r.method.code :: Utf8.encode r.target ++
    Bytes.space :: r.payload

/-- The frame of a request. Whoever calls this has seen to it that the target holds no space. -/
def encode (r : Request) : Bytes :=
  Frame.encode r.body

/-- Reads the body of a request's frame. The id and the target must be texts, and the letter must be
that of a method. -/
def parse? (body : Bytes) : Option Request := do
  let (id, rest) ← body.splitAtSpace?
  let code ← rest.head?
  let (target, payload) ← Bytes.splitAtSpace? rest.tail
  return {
    id := ← (Utf8.decode? id).toOption
    method := ← Method.ofCode? code
    target := ← (Utf8.decode? target).toOption
    payload := payload }

end Request

end DocWire

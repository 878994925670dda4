import DocWire.Error

namespace DocWire.Response

/-- Whether a document reports success: its member `ok` is the integer one. -/
def reportsSuccess (doc : Json.Value) : Bool :=
  (doc.get? "ok").bind (·.int64?) = some 1

/-- A response that is a success. A failure becomes an error, and so does a document that does not
report success. -/
def check : Response → Except Error Response
  | .failure f => .error (.server f)
  | .document doc =>
    if reportsSuccess doc then .ok (.document doc) else .error (.server (.ofDocument doc))
  | .text s => .ok (.text s)

/-- An item of a successful response. A text is its own item `msg`; the items of a document are its
members. -/
def item (r : Response) (key : String) : Except Error Json.Value := do
  match ← r.check with
  | .text s => if key = "msg" then return .string s else throw (.protocol (.missingItem key))
  | .document doc =>
    match doc.get? key with
    | some v => return v
    | none => throw (.protocol (.missingItem key))
  | .failure _ => throw (.protocol (.missingItem key))

end DocWire.Response

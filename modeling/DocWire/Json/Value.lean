import DocWire.Binary64

/-! An integer of at most 64 bits stays an integer, and every other number is a floating-point one.
An object keeps its members in the order of their names, one to a name. -/

namespace DocWire.Json

/-- The largest integer of 63 bits and a sign. -/
def maxInt64 : Nat := 0x7FFFFFFFFFFFFFFF

/-- A number. An integer lies between `-2 ^ 63` and `2 ^ 64 - 1`. -/
inductive Number where
  | int (n : Int)
  | float (x : Binary64)
deriving DecidableEq, Repr

/-- A value. -/
inductive Value where
  | null
  | bool (b : Bool)
  | number (n : Number)
  | string (s : String)
  | array (items : List Value)
  | object (members : List (String × Value))
deriving Repr

namespace Value

/-- Adds a member in the order of the names. A member of that name is replaced. -/
def insertMember (name : String) (v : Value) : List (String × Value) → List (String × Value)
  | [] => [(name, v)]
  | (n, w) :: rest =>
    if name = n then (name, v) :: rest
    else if name < n then (name, v) :: (n, w) :: rest
    else (n, w) :: insertMember name v rest

/-- The object with the given members; of two with one name the later one counts. -/
def ofMembers (members : List (String × Value)) : Value :=
  .object (members.foldl (fun acc (name, v) => insertMember name v acc) [])

/-- The member of an object with a given name. -/
def get? (v : Value) (name : String) : Option Value :=
  match v with
  | .object members => members.lookup name
  | _ => none

/-- The text of a string. -/
def text? : Value → Option String
  | .string s => some s
  | _ => none

/-- The value of an integer of at most 63 bits and a sign. A floating-point number is never one,
whatever its value. -/
def int64? : Value → Option Int
  | .number (.int n) => if n ≤ maxInt64 then some n else none
  | _ => none

end Value

end DocWire.Json

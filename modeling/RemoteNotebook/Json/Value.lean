import RemoteNotebook.Decimal.Binary64
import RemoteNotebook.Decimal.Integer

/-!
JSON values. A number is an integer or a binary64 number, and the two stay apart: `1` and `1.0` are
different values. The members of an object are kept in the order of their keys, one for each key.
-/

namespace RemoteNotebook

inductive Json where
  | null
  | bool (b : Bool)
  | int (i : Int)
  | double (x : Decimal.Binary64)
  | str (s : String)
  | arr (items : List Json)
  | obj (members : List (String × Json))
  deriving Inhabited

namespace Json

/-- The members with one more. A member with the same key is replaced. -/
def insertMember (key : String) (value : Json) : List (String × Json) → List (String × Json)
  | [] => [(key, value)]
  | (k, v) :: ms =>
    if key = k then (key, value) :: ms
    else if key < k then (key, value) :: (k, v) :: ms
    else (k, v) :: insertMember key value ms

def ofMembers (members : List (String × Json)) : Json :=
  .obj (members.foldl (fun ms m => insertMember m.1 m.2 ms) [])

/-- The member of an object under a key; any other value has no members. -/
def get? (key : String) : Json → Option Json
  | .obj members => members.lookup key
  | _ => none

def str? : Json → Option String
  | .str s => some s
  | _ => none

def arr? : Json → Option (List Json)
  | .arr items => some items
  | _ => none

def uint64? : Json → Option UInt64
  | .int i => if 0 ≤ i ∧ i.toNat < UInt64.size then some (UInt64.ofNat i.toNat) else none
  | _ => none

/-- The value as a signed 64-bit number. A double is none, even a whole one. -/
def int64? : Json → Option Int64
  | .int i => Decimal.toInt64? i
  | _ => none

end Json
end RemoteNotebook

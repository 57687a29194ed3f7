import RemoteNotebook.Note

/-!
Replies of the database and the outcome of a round trip. A reply is read from any JSON value: each
of its fields has a rule of its own for what it takes and for what it leaves out.
-/

namespace RemoteNotebook

/-- A reply. A field that the database did not set is none. -/
structure Reply where
  rows : Option (List (List Json)) := none
  error : Option String := none
  columns : Option (List String) := none
  rowCount : Option UInt64 := none
  message : Option String := none
  deriving Inhabited

namespace Reply

/-- The text of a reported error. Null, false and the empty string report none. -/
def errorText? : Json → Option String
  | .null => none
  | .bool false => none
  | .str s => if s = "" then none else some s
  | v => some v.compact

/-- A row: an array is one as it is, any other value is a row of one cell. -/
def rowOf : Json → List Json
  | .arr cells => cells
  | v => [v]

/-- The reply that a JSON value is. A value that is no object sets nothing. -/
def ofJson (body : Json) : Reply where
  rows := (body.get? "rows").bind Json.arr? |>.map (·.map rowOf)
  error := ((body.get? "error_message").bind errorText?).or ((body.get? "error").bind errorText?)
  columns := (body.get? "columns").bind Json.arr? |>.map (·.filterMap Json.str?)
  rowCount := (body.get? "rowCount").bind Json.uint64?
  message := (body.get? "message").bind Json.str?

def members (r : Reply) : List (String × Json) :=
  (r.rows.map fun rows => ("rows", Json.arr (rows.map .arr))).toList ++
  (r.error.map fun e => ("error_message", Json.str e)).toList ++
  (r.columns.map fun columns => ("columns", Json.arr (columns.map .str))).toList ++
  (r.rowCount.map fun n => ("rowCount", Json.int n.toNat)).toList ++
  (r.message.map fun m => ("message", Json.str m)).toList

def toJson (r : Reply) : Json := .ofMembers r.members

def failed (error : String) : Reply := { error := some error }

def offline : Reply := failed "Could not reach DB server"

def isError (r : Reply) : Bool := r.error.isSome

def notes (r : Reply) : List Note := (r.rows.getD []).filterMap Note.ofRow?

end Reply

inductive Connectivity where
  | unknown
  | connected
  | offline
  deriving DecidableEq, Repr, Inhabited

def Connectivity.text : Connectivity → String
  | .unknown => "Connecting..."
  | .connected => "Connected: B-Tree Stable"
  | .offline => "Database Offline"

structure Outcome where
  connectivity : Connectivity
  reply : Reply
  deriving Inhabited

namespace Outcome

def connected (reply : Reply) : Outcome := ⟨.connected, reply⟩

def offline : Outcome := ⟨.offline, .offline⟩

end Outcome
end RemoteNotebook

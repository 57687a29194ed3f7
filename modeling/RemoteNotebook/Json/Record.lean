import RemoteNotebook.Json.Reader

/-!
Records: values with a fixed list of fields. A record is written as an object, or as an array of
exactly its fields in order. No field may come twice; what happens to other keys is up to the
record.
-/

namespace RemoteNotebook.Json.Record

inductive OtherKeys where
  | ignore
  | refuse
  deriving DecidableEq, Repr

/-- A value whose only use is its form; it may be nested to any depth. -/
def ignored : Reader Json := fun cs => valueWith formal cs.length cs

def member (fields : List String) (other : OtherKeys) : Reader (Option (String × Json)) :=
  keyed strict fun k cs =>
    if fields.contains k then
      (valueWith strict (depthLimit - 1) cs).map (·.map fun v => some (k, v))
    else if other = .ignore then (ignored cs).map (·.map fun _ => none)
    else none

/-- The fields with the values of an array that has exactly as many. -/
def ofItems (fields : List String) (items : List Json) : Option (List (String × Json)) :=
  if items.length = fields.length then some (fields.zip items) else none

/-- The fields of an object, as long as none comes twice. -/
def ofMembers (members : List (Option (String × Json))) : Option (List (String × Json)) :=
  let found := members.filterMap id
  if (found.map (·.1)).Nodup then some found else none

def parse? (fields : List String) (other : OtherKeys) (s : String) :
    Option (List (String × Json)) :=
  let finish (rest : List Char) (found : Option (List (String × Json))) :=
    if (skipSpaces rest).isEmpty then found else none
  match skipSpaces s.toList with
  | '[' :: cs =>
    (bracketed (valueWith strict (depthLimit - 1)) ']' cs).bind fun x =>
      finish x.rest (ofItems fields x.value)
  | '\x7b' :: cs =>
    (bracketed (member fields other) '\x7d' cs).bind fun x => finish x.rest (ofMembers x.value)
  | _ => none

end RemoteNotebook.Json.Record

import RemoteNotebook.Json.Writer
import RemoteNotebook.Sql.Literal
import RemoteNotebook.Decimal.Integer
import RemoteNotebook.Text.Blank

/-!
Notes, and how a row of a response is read as one.
-/

namespace RemoteNotebook

/-- A note, stored or new. One that is new has its id already. -/
structure Note where
  id : Int64
  title : String
  content : String
  deriving DecidableEq, Repr

namespace Note

def idAt (time : Int) : Int64 := Int64.ofInt (time % 1000000)

/-- An id is an integer, or a string with an integer in decimal and blanks around it. -/
def cellId? : Json → Option Int64
  | .str s => Decimal.int64? (Text.trimBlanks s.toList)
  | v => v.int64?

/-- The text of a cell: a string as the literal it was stored as, null as no text, and any other
value as its JSON text. -/
def cellText : Json → String
  | .str s => Sql.Literal.unescape s
  | .null => ""
  | v => v.compact

/-- The note of a row: its first three cells, as long as there are three and the first is an id. -/
def ofRow? : List Json → Option Note
  | id :: title :: content :: _ =>
    (cellId? id).map fun i => ⟨i, cellText title, cellText content⟩
  | _ => none

end Note
end RemoteNotebook

import RemoteNotebook.Json.Record
import RemoteNotebook.Reply
import RemoteNotebook.Settings

/-!
The JSON texts in which queries, notes, settings and replies are exchanged. A text that is written
has its fields in the order of their declaration. A text that is read may have them in any order, or
in an array, and other fields are ignored.
-/

namespace RemoteNotebook

namespace Wire

def text? (members : List (String × Json)) (name : String) : Option String :=
  (members.lookup name).bind Json.str?

def int64? (members : List (String × Json)) (name : String) : Option Int64 :=
  (members.lookup name).bind Json.int64?

def encodeQuery (sql : String) : String := Json.compactMembers [("sql", .str sql)]

def decodeQuery? (text : String) : Option String :=
  (Json.Record.parse? ["sql"] .ignore text).bind (text? · "sql")

end Wire

namespace Note

def members (n : Note) : List (String × Json) :=
  [("id", .int n.id.toInt), ("title", .str n.title), ("content", .str n.content)]

def encode (n : Note) : String := Json.compactMembers n.members

def decode? (text : String) : Option Note :=
  (Json.Record.parse? ["id", "title", "content"] .ignore text).bind fun members =>
    (Wire.int64? members "id").bind fun id =>
      (Wire.text? members "title").bind fun title =>
        (Wire.text? members "content").map fun content => ⟨id, title, content⟩

end Note

namespace Settings

def members (s : Settings) : List (String × Json) :=
  [("endpoint", .str s.endpoint.text), ("table", .str s.table)]

def encode (s : Settings) : String := Json.compactMembers s.members

def decode? (text : String) : Option Settings :=
  (Json.Record.parse? ["endpoint", "table"] .ignore text).bind fun members =>
    (Wire.text? members "endpoint").bind fun address =>
      (Wire.text? members "table").bind fun table =>
        (Endpoint.parse address).toOption.map fun endpoint => ⟨endpoint, table⟩

end Settings

namespace Reply

def encode (r : Reply) : String := Json.compactMembers r.members

/-- A reply is read from any JSON text. -/
def decode? (text : String) : Option Reply := (Json.parse? text).map ofJson

end Reply
end RemoteNotebook

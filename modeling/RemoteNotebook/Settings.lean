import RemoteNotebook.Endpoint.Parser
import RemoteNotebook.Failure
import RemoteNotebook.Json.Record
import RemoteNotebook.Sql.Statement
import RemoteNotebook.Text.Utf8

/-!
Settings of the client: where the database is and which table holds the notes. They start from
defaults, a file may override them, and the command line overrides both.
-/

namespace RemoteNotebook

structure Settings where
  endpoint : Endpoint
  table : String
  deriving DecidableEq, Repr

abbrev FileBytes := Except FileFault (List UInt8)

def FileBytes.text (file : FileBytes) : Except FileFault String :=
  file.bind fun bytes =>
    match Text.Utf8.decode bytes with
    | some cs => .ok (String.ofList cs)
    | none => .error .notText

/-- Whether a path leads to a file, or to anything else in its place. Whatever keeps it from being
followed, nothing is there then. -/
def FileBytes.isThere : FileBytes → Bool
  | .error .notFound => false
  | .error .notADirectory => false
  | .error .nameTooLong => false
  | .error .nulInName => false
  | .error (.unresolved _) => false
  | _ => true

inductive TableFault where
  | empty
  | notAName (text : String)
  deriving DecidableEq, Repr

def TableFault.message : TableFault → String
  | empty => "table name cannot be empty"
  | notAName text => "invalid table name '" ++ text ++ "': use letters, digits and underscores"

namespace Settings

def defaultEndpoint : Endpoint where
  scheme := "http"
  host := some (.name "localhost")
  port := some 8081
  path := .segments ["query"]

def default : Settings := ⟨defaultEndpoint, "notes"⟩

def tableName (text : String) : Except TableFault String :=
  let name := Text.trim text
  if name.isEmpty then .error .empty
  else if Sql.isTableName name.toList then .ok name
  else .error (.notAName name)

/-- Settings with some of their fields overridden, and what went wrong. The endpoint is taken
before the table is looked at, so it stays when the table is refused. -/
structure Overridden where
  settings : Settings
  result : Except Failure Unit

def overrideEndpoint (parse : String → Except Endpoint.Fault Endpoint) (s : Settings) :
    Option String → Overridden
  | none => ⟨s, .ok ()⟩
  | some text =>
    match parse text with
    | .ok e => ⟨{ s with endpoint := e }, .ok ()⟩
    | .error fault => ⟨s, .error (.endpoint fault)⟩

def overrideTable (s : Settings) : Option String → Overridden
  | none => ⟨s, .ok ()⟩
  | some text =>
    match tableName text with
    | .ok name => ⟨{ s with table := name }, .ok ()⟩
    | .error fault => ⟨s, .error (.settings fault.message)⟩

def overrideWith (parse : String → Except Endpoint.Fault Endpoint) (s : Settings)
    (endpoint table : Option String) : Overridden :=
  match overrideEndpoint parse s endpoint with
  | ⟨s, .ok ()⟩ => overrideTable s table
  | failed => failed

def override (s : Settings) (endpoint table : Option String) : Overridden :=
  overrideWith Endpoint.parse s endpoint table

def Overridden.toExcept (o : Overridden) : Except Failure Settings :=
  o.result.map fun _ => o.settings

/-- A field of a settings file: a string, or null for none. -/
def fileField? (members : List (String × Json)) (name : String) : Option (Option String) :=
  match members.lookup name with
  | none => some none
  | some .null => some none
  | some (.str s) => some (some s)
  | some _ => none

def ofFileText? (text : String) : Option (Option String × Option String) :=
  (Json.Record.parse? ["endpoint", "table"] .refuse text).bind fun members =>
    (fileField? members "endpoint").bind fun endpoint =>
      (fileField? members "table").map fun table => (endpoint, table)

def ofFileWith (parse : String → Except Endpoint.Fault Endpoint) (file : FileBytes) :
    Except Failure Settings :=
  match file.text with
  | .error fault => .error (.file fault)
  | .ok text =>
    match ofFileText? text with
    | none => .error (.format "the settings are not an object with an endpoint and a table")
    | some (endpoint, table) => (overrideWith parse default endpoint table).toExcept

def ofFile (file : FileBytes) : Except Failure Settings := ofFileWith Endpoint.parse file

def homePath : String := ".btree-notes/config.json"

/-- The settings of a file that was named, or of the one in the home directory if there is one. -/
def load (named : Option FileBytes) (home : FileBytes) : Except Failure Settings :=
  match named with
  | some file => ofFile file
  | none => if home.isThere then ofFile home else .ok default

end Settings
end RemoteNotebook

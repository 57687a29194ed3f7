import RemoteNotebook.Note
import RemoteNotebook.Sql.Literal
import RemoteNotebook.Decimal.Integer

/-!
The four statements that notes are stored, listed and deleted with, and their texts.
-/

namespace RemoteNotebook.Sql

inductive Statement where
  | createTable (table : String)
  | insert (table : String) (note : Note)
  | select (table : String)
  | delete (table : String) (id : Int64)
  deriving DecidableEq, Repr

namespace Statement

def kind : Statement → String
  | createTable _ => "create_table"
  | insert _ _ => "insert"
  | select _ => "select"
  | delete _ _ => "delete"

def text : Statement → String
  | createTable table =>
    "CREATE TABLE " ++ table ++ " (id INT PRIMARY, title STRING(64), content STRING(255));"
  | insert table note =>
    "INSERT INTO " ++ table ++ " VALUES (" ++ Decimal.int note.id.toInt ++ ", " ++
      Literal.quote note.title ++ ", " ++ Literal.quote note.content ++ ");"
  | select table => "SELECT * FROM " ++ table ++ ";"
  | delete table id => "DELETE FROM " ++ table ++ " WHERE id = " ++ Decimal.int id.toInt ++ ";"

end Statement

/-- What is sent to the database: a statement on notes, or any text as it was given. -/
inductive Query where
  | statement (s : Statement)
  | raw (text : String)
  deriving DecidableEq, Repr

def Query.text : Query → String
  | statement s => s.text
  | raw text => text

def isNameStart (c : Char) : Bool := c.isAlpha || c = '_'

/-- The names that stand in a statement without quotes: a letter or an underscore of ASCII, then
letters, digits and underscores. -/
def isTableName (cs : List Char) : Bool :=
  match cs with
  | [] => false
  | c :: cs => isNameStart c && cs.all fun d => isNameStart d || d.isDigit

end RemoteNotebook.Sql

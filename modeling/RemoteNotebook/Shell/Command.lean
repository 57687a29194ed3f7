import RemoteNotebook.Decimal.Integer
import RemoteNotebook.Failure
import RemoteNotebook.Text.Blank
import RemoteNotebook.Text.Casing

/-!
The commands of the shell. A command is a word, of which upper and lower case are the same, and
what follows it after blanks.
-/

namespace RemoteNotebook.Shell

inductive Command where
  | add
  | delete (id : Int64)
  | list
  | sql (statement : String)
  | help
  | quit
  | empty
  deriving DecidableEq, Repr

inductive Misread where
  | notAnId (text : String)
  | noStatement
  | unknown (word : String)
  deriving DecidableEq, Repr

def Misread.message : Misread → String
  | notAnId text => "'" ++ text ++ "' is not a note id"
  | noStatement => "sql needs a statement"
  | unknown word => "unknown command '" ++ word ++ "'"

def Misread.failure (m : Misread) : Failure := .input m.message

namespace Command

def ofWord (word rest : String) : Except Misread Command :=
  match word with
  | "" => .ok .empty
  | "add" | "new" => .ok .add
  | "list" | "ls" | "refresh" => .ok .list
  | "help" | "?" => .ok .help
  | "quit" | "exit" | "q" => .ok .quit
  | "delete" | "del" | "rm" =>
    match Decimal.int64? rest.toList with
    | some id => .ok (.delete id)
    | none => .error (.notAnId rest)
  | "sql" => if rest.isEmpty then .error .noStatement else .ok (.sql rest)
  | other => .error (.unknown other)

def parse (line : String) : Except Misread Command :=
  let (word, rest) := Text.splitWord (Text.trimBlanks line.toList)
  ofWord (Text.lowercase (String.ofList word)) (String.ofList rest)

end Command
end RemoteNotebook.Shell

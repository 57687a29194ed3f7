import RemoteNotebook.Console
import RemoteNotebook.Shell.Command

/-!
One turn of the shell: a line is read as a command, and the command is obeyed.
-/

namespace RemoteNotebook.Shell

open Console (Step)

def promptLabel : String := "notes> "

def greeting : String := "Type 'help' for commands."

def helpText : String :=
  "Commands:\n" ++
  "    add              Write a new note (prompts for title and content)\n" ++
  "    delete <id>      Delete a note\n" ++
  "    list             Refresh the note list\n" ++
  "    sql <statement>  Send a raw statement and print the response\n" ++
  "    help             Show this help\n" ++
  "    quit             Leave"

inductive Flow where
  | again
  | leave
  deriving DecidableEq, Repr

def fieldLabel (name current : String) : String :=
  if current.isEmpty then name ++ ": " else name ++ " [" ++ current ++ "]: "

/-- What a field holds after a line was typed into it. An empty line keeps what there is. -/
def refill (typed current : String) : String := if typed.isEmpty then current else typed

/-- Reads both fields of the form. The end of the input is before the form is full. -/
def fillForm : Step Bool := do
  let form ← get
  match ← Console.prompt (fieldLabel "Title" form.title) with
  | none => return false
  | some title =>
    set { form with title := refill title form.title }
    match ← Console.prompt (fieldLabel "Content" form.content) with
    | none => return false
    | some content =>
      modify fun form => { form with content := refill content form.content }
      return true

def obey (table : String) : Command → Step Flow
  | .empty => return .again
  | .help => do
    Console.say helpText
    return .again
  | .quit => return .leave
  | .list => do
    let _ ← Console.lift (Session.refresh table)
    return .again
  | .delete id => do
    let _ ← Console.lift (Session.delete table id)
    return .again
  | .sql statement => do
    let reply ← Console.lift (Session.runSql statement)
    Console.showReply reply
    return .again
  | .add => do
    if ← fillForm then
      let _ ← Console.lift (Session.submit table)
      return .again
    else
      return .leave

def obeyLine (table : String) (line : String) : Step Flow :=
  match Command.parse line with
  | .error misread => do
    Console.say misread.failure.userMessage
    return .again
  | .ok command => obey table command

/-- Reads a line and obeys it. The shell ends where the input does. -/
def turn (table : String) : Step Flow := do
  match ← Console.prompt promptLabel with
  | none => return .leave
  | some line => obeyLine table line

def opening (table : String) : Step Unit := do
  let _ ← Console.lift (Session.start table)
  Console.say greeting

end RemoteNotebook.Shell

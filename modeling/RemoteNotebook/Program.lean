import RemoteNotebook.CommandLine
import RemoteNotebook.Page
import RemoteNotebook.Shell
import RemoteNotebook.Storage

/-!
The program: from a command line to what it does. It reads its settings first and sends nothing if
there is a fault in them. Each command but the shell and the page is one console step.
-/

namespace RemoteNotebook.Program

inductive Exit where
  | success
  | failure
  deriving DecidableEq, Repr

def Exit.code : Exit → Nat
  | success => 0
  | failure => 1

def Exit.ofBool (accepted : Bool) : Exit := if accepted then success else failure

section Steps

open Console (Step)

def initStep (table : String) : Step Exit := do
  let _ ← Console.lift (Session.start table)
  return .success

def listStep (table : String) : Step Exit := do
  let _ ← Console.lift (Session.refresh table)
  return .success

def addStep (table title content : String) : Step Exit := do
  let created ← Console.lift (Session.create table title content)
  return .ofBool created

def nothingDeleted : String := "Nothing deleted."

def deleteStep (table : String) (id : Int64) : Step Exit := do
  let deleted ← Console.lift (Session.delete table id)
  if deleted then
    return .success
  else
    Console.say nothingDeleted
    return .success

def sqlStep (statement : String) : Step Exit := do
  let reply ← Console.lift (Session.runSql statement)
  Console.showReply reply
  return .ofBool !reply.isError

end Steps

structure Host where
  input : List UInt8 := []
  storage : Storage := {}
  ids : Nat → Int64
  outcomes : Nat → Outcome

structure Report where
  result : Except Failure Exit
  out : String := ""
  err : String := ""
  queries : List Sql.Query := []
  storage : Storage

def Host.terminal (h : Host) (assumeYes : Bool) : World Terminal where
  surface := ⟨h.input, "", "", assumeYes⟩
  ids := h.ids
  outcomes := h.outcomes

def Host.report (h : Host) (run : Console.Run Exit) : Report where
  result := run.value.1
  out := run.state.surface.out
  err := run.state.surface.err
  queries := Console.queries run.events
  storage := h.storage

def Host.take (h : Host) (assumeYes : Bool) (step : Console.Step Exit) : Report :=
  h.report (step.runFrom {} (h.terminal assumeYes))

/-- The shell, which ends with success however it is left. -/
def shell (h : Host) (table : String) : Report :=
  let run := Shell.run table {} (h.terminal false)
  h.report { run with value := (run.value.1.map fun _ => .success, run.value.2) }

def wrote (path : String) : String := "Wrote " ++ path ++ "\n"

def pageRun (h : Host) (table : String) : Except Failure String × List Sql.Query :=
  let (result, s) := (⟨table, {}, ⟨{}, h.ids, h.outcomes, 0, 0⟩, []⟩ : Session Page).take
    Page.surface (Session.refresh table)
  (result.map fun _ => s.world.surface.text s.form, Session.queries s.log)

def render (h : Host) (table : String) (output : Option String) : Report :=
  let (page, queries) := pageRun h table
  match page, output with
  | .error e, _ => { result := .error e, queries, storage := h.storage }
  | .ok text, none => { result := .ok .success, out := text, queries, storage := h.storage }
  | .ok text, some path =>
    match h.storage.write path (Text.Utf8.encode text.toList) with
    | .error fault => { result := .error (.file fault), queries, storage := h.storage }
    | .ok storage => { result := .ok .success, err := wrote path, queries, storage }

def perform (h : Host) (table : String) : Command → Report
  | .init => h.take false (initStep table)
  | .list => h.take false (listStep table)
  | .add title content => h.take false (addStep table title content)
  | .delete id yes => h.take yes (deleteStep table id)
  | .render output => render h table output
  | .sql statement => h.take false (sqlStep statement)
  | .shell => shell h table

/-- The settings that a command line asks for, from its settings file or that of the user. -/
def settings (named : Option FileBytes) (home : FileBytes) (line : CommandLine) :
    Except Failure Settings :=
  (Settings.load named home).bind fun s => (s.override line.endpoint line.table).toExcept

def run (h : Host) (line : CommandLine) : Report :=
  match settings (line.config.map h.storage.find) (h.storage.find Settings.homePath) line with
  | .error e => { result := .error e, storage := h.storage }
  | .ok s => perform h s.table line.command

def farewell (e : Failure) : String := e.userMessage ++ "\n"

def version : String := "btree-notes 0.1.0\n"

def usage : String :=
  "Usage: btree-notes [OPTIONS] [COMMAND]\n" ++
  "\n" ++
  "Commands:\n" ++
  "  init                                   Create the notes table and list notes\n" ++
  "  list                                   List all notes\n" ++
  "  add [--title TEXT] [--content TEXT]    Add a note\n" ++
  "  delete ID [-y]                         Delete a note by id\n" ++
  "  render [-o FILE]                       Write the notes page as HTML\n" ++
  "  sql STATEMENT...                       Send a raw SQL statement and print the response\n" ++
  "  shell                                  Interactive session (default)\n" ++
  "\n" ++
  "Options:\n" ++
  "  --endpoint URL       Query endpoint (default http://localhost:8081/query)\n" ++
  "  --table NAME         Table holding the notes\n" ++
  "  --config FILE        Config file (default ~/.btree-notes/config.json)\n" ++
  "  --log-level LEVEL    Accepted and ignored\n"

end RemoteNotebook.Program

import RemoteNotebook.CommandLine.Grammar
import RemoteNotebook.Decimal.Integer

/-!
Command lines of the program: settings, and the command to perform with them.
-/

namespace RemoteNotebook

inductive Command where
  /-- Creates the table and lists the notes. -/
  | init
  | list
  | add (title content : String)
  | delete (id : Int64) (yes : Bool)
  /-- Writes the page of notes, to a file if there is one. -/
  | render (output : Option String)
  | sql (statement : String)
  | shell
  deriving DecidableEq, Repr

structure CommandLine where
  endpoint : Option String := none
  table : Option String := none
  /-- The settings file. -/
  config : Option String := none
  logLevel : Option String := none
  command : Command := .shell
  deriving DecidableEq, Repr

namespace CommandLine

inductive Word where
  | init
  | list
  | add
  | delete
  | render
  | sql
  | shell
  deriving DecidableEq, Repr

namespace Word

def all : List Word := [init, list, add, delete, render, sql, shell]

def text : Word → String
  | init => "init"
  | list => "list"
  | add => "add"
  | delete => "delete"
  | render => "render"
  | sql => "sql"
  | shell => "shell"

def ofText? (s : String) : Option Word := all.find? (·.text = s)

def level : Word → Level
  | add => { own := [.title, .content] }
  | delete =>
    { own := [.yes], admits := fun s => (Decimal.int64? s.toList).isSome, most := some 1 }
  | render => { own := [.output] }
  | sql => { most := none }
  | _ => {}

def command? (word : Word) (t : Taken) : Option Command :=
  match word, t.positionals with
  | init, _ => some .init
  | list, _ => some .list
  | add, _ => some (.add ((t.value? .title).getD "") ((t.value? .content).getD ""))
  | delete, id :: _ =>
    (Decimal.int64? id.toList).map fun id => .delete id (t.value? .yes).isSome
  | delete, [] => none
  | render, _ => some (.render (t.value? .output))
  | sql, [] => none
  | sql, words => some (.sql (String.intercalate " " words))
  | shell, _ => some .shell

end Word

/-- The command line of a command and two levels. An option of every level counts where it stands
last. -/
def ofTaken (command : Command) (top inner : Taken) : CommandLine :=
  let value? o := (inner.value? o).or (top.value? o)
  ⟨value? .endpoint, value? .table, value? .config, value? .logLevel, command⟩

def readHelp : List String → Stop
  | [] => .help
  | [word] => if (Word.ofText? word).isSome || word = "help" then .help else .misuse
  | _ => .misuse

/-- Reads the arguments of the program. Without a command it is the shell. -/
def parse (arguments : List String) : Except Stop CommandLine := do
  match ← readLevel { isTop := true } ({}, none) arguments with
  | (top, none) => return ofTaken .shell top {}
  | (top, some (text, rest)) =>
    match Word.ofText? text with
    | some word =>
      let (inner, _) ← readLevel word.level ({}, none) rest
      match word.command? inner with
      | some command => return ofTaken command top inner
      | none => throw .misuse
    | none => throw (if text = "help" then readHelp rest else .misuse)

end CommandLine
end RemoteNotebook

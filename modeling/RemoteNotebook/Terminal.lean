import RemoteNotebook.Surface
import RemoteNotebook.Terminal.Text
import RemoteNotebook.Text.Utf8

/-!
Terminals: a surface with input that is read line by line, an output and an output for errors. Only
reading can fail, when a line is not a text; the line is used up nevertheless.
-/

namespace RemoteNotebook

structure Terminal where
  input : List UInt8
  out : String := ""
  err : String := ""
  /-- Questions are answered with yes, and nothing is read for them. -/
  assumeYes : Bool := false
  deriving Repr

namespace Terminal

def write (text : String) (t : Terminal) : Terminal := { t with out := t.out ++ text }

def say (line : String) (t : Terminal) : Terminal := t.write (line ++ "\n")

def report (line : String) (t : Terminal) : Terminal := { t with err := t.err ++ (line ++ "\n") }

/-- The text of the bytes of a line. No bytes are the end of the input. -/
def lineText (bytes : List UInt8) : Except Failure (Option String) :=
  if bytes.isEmpty then .ok none
  else
    match Text.Utf8.decode bytes with
    | some cs => .ok (some (String.ofList (Text.chomp cs)))
    | none => .error (.file .notText)

def readLine (t : Terminal) : Except Failure (Option String) × Terminal :=
  (lineText (Text.splitLine t.input).1, { t with input := (Text.splitLine t.input).2 })

def prompt (label : String) (t : Terminal) : Except Failure (Option String) × Terminal :=
  (t.write label).readLine

/-- Asks a question. The end of the input is a no. -/
def confirm (question : String) (t : Terminal) : Except Failure Bool × Terminal :=
  if t.assumeYes then (.ok true, t)
  else
    let (answer, t) := t.prompt (questionLabel question)
    (answer.map (·.any isYes), t)

/-- Writes a reply: its error to the output for errors, or else its lines. -/
def showReply (r : Reply) (t : Terminal) : Terminal :=
  match r.error with
  | some e => t.report (errorLine e)
  | none => t.write (textOf (replyLines r))

def surface : Surface Terminal
  | .setStatus s, t => (.ok (), t.say (statusLine s))
  | .showNotes l, t => (.ok (), t.write (textOf (listingLines l)))
  | .alert m, t => (.ok (), t.report m)
  | .confirm p, t => t.confirm p

end Terminal
end RemoteNotebook

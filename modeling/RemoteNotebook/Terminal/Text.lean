import RemoteNotebook.Decimal.Integer
import RemoteNotebook.Listing
import RemoteNotebook.Text.Casing
import RemoteNotebook.Text.Lines
import RemoteNotebook.Text.Blank

/-!
What a terminal shows, as lines: the status line, a list of notes and the table of a reply; and how
a line that was typed answers a question.
-/

namespace RemoteNotebook.Terminal

def rule (c : Char) : String := String.ofList (List.replicate 60 c)

def textOf (lines : List String) : String := String.join (lines.map (· ++ "\n"))

def statusLine (status : Connectivity) : String := "Status: " ++ status.text

/-- The lines of a note: id and title, and the lines of the content, indented. -/
def cardLines (note : Note) : List String :=
  ("[" ++ Decimal.int note.id.toInt ++ "] " ++ note.title) ::
    (Text.lines note.content.toList).map fun l => "    " ++ String.ofList l

def cardsLines : List Note → List String
  | [] => []
  | [note] => cardLines note
  | note :: next :: notes => cardLines note ++ "" :: cardsLines (next :: notes)

def listingLines (listing : Listing) : List String :=
  rule '=' ::
    (match listing with
      | .placeholder => [Listing.placeholderText]
      | .cards notes => cardsLines notes) ++
    [rule '=']

/-- A cell of a table: a string without quotes, null in capitals, any other value as JSON. -/
def cell : Json → String
  | .str s => s
  | .null => "NULL"
  | v => v.compact

def rowLine (cells : List String) : String := String.intercalate " | " cells

/-- The last line of a table: the number of rows as the reply states it, or else as they are. -/
def countLine (r : Reply) (rows : List (List Json)) : String :=
  let n := (r.rowCount.map UInt64.toNat).getD rows.length
  "(" ++ Decimal.nat n ++ " row" ++ (if n = 1 then "" else "s") ++ ")"

def tableLines (r : Reply) (rows : List (List Json)) : List String :=
  rule '=' ::
    (match r.columns with
      | some columns => [rowLine columns, rule '-']
      | none => []) ++
    rows.map (fun row => rowLine (row.map cell)) ++
    [rule '=', countLine r rows]

/-- The lines of a reply that reports no error: its rows, or else its message. -/
def replyLines (r : Reply) : List String :=
  match r.rows with
  | some rows => tableLines r rows
  | none => [r.message.getD "OK"]

def errorLine (error : String) : String := "Error: " ++ error

def questionLabel (prompt : String) : String := prompt ++ " [y/N] "

def isYes (line : String) : Bool :=
  let word := Text.lowercase (Text.trim line)
  word = "y" || word = "yes"

end RemoteNotebook.Terminal

import RemoteNotebook.Reply

/-!
What a list of notes shows, and the form for a new note.
-/

namespace RemoteNotebook

inductive Listing where
  /-- There is nothing to list. -/
  | placeholder
  /-- One card for each note, in order. -/
  | cards (notes : List Note)
  deriving DecidableEq, Repr

namespace Listing

def placeholderText : String := "No notes found in the B-Tree."

def ofNotes : List Note → Listing
  | [] => placeholder
  | n :: ns => cards (n :: ns)

def ofReply (r : Reply) : Listing := ofNotes r.notes

end Listing

structure Form where
  title : String := ""
  content : String := ""
  deriving DecidableEq, Repr, Inhabited

namespace Form

def empty : Form := {}

def isEmpty (f : Form) : Bool := f.title.isEmpty && f.content.isEmpty

end Form
end RemoteNotebook

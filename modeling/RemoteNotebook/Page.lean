import RemoteNotebook.Decimal.Integer
import RemoteNotebook.Page.Markup
import RemoteNotebook.Surface

/-!
The page of notes. As a surface it keeps what it was told to show, and it answers every question
with no, for there is nobody to ask. Its text is a complete document.
-/

namespace RemoteNotebook

structure Page where
  status : Connectivity := .unknown
  listing : Listing := .placeholder
  alerts : List String := []
  deriving DecidableEq, Repr

namespace Page

open Markup (Piece)

def surface : Surface Page
  | .setStatus s, p => (.ok (), { p with status := s })
  | .showNotes l, p => (.ok (), { p with listing := l })
  | .alert m, p => (.ok (), { p with alerts := p.alerts ++ [m] })
  | .confirm _, p => (.ok false, p)

def deleteLabel : String := "Delete Permanent"

def style : String :=
  "body \x7b font-family: -apple-system, BlinkMacSystemFont, 'Segoe UI', Roboto, sans-serif; " ++
  "background: #f4f5fb; margin: 0; padding: 20px; color: #333; \x7d\n" ++
  ".container \x7b max-width: 1000px; margin: 0 auto; \x7d\n" ++
  "#db-status \x7b font-size: 0.9rem; color: #667eea; margin-bottom: 20px; \x7d\n" ++
  "#noteForm \x7b display: flex; flex-direction: column; gap: 10px; margin-bottom: 30px; \x7d\n" ++
  "#noteForm input, #noteForm textarea \x7b padding: 10px; border: 2px solid #e0e0e0; " ++
  "border-radius: 8px; \x7d\n" ++
  ".alert \x7b background: #fed7d7; color: #742a2a; padding: 10px; border-radius: 8px; " ++
  "margin-bottom: 10px; \x7d\n" ++
  "#notesGrid \x7b display: grid; " ++
  "grid-template-columns: repeat(auto-fill, minmax(250px, 1fr)); gap: 20px; \x7d\n" ++
  ".note-card \x7b background: white; border-radius: 10px; padding: 20px; " ++
  "box-shadow: 0 5px 15px rgba(0,0,0,0.1); \x7d\n" ++
  ".delete-btn \x7b background: #e53e3e; color: white; border: none; padding: 8px 16px; " ++
  "border-radius: 6px; \x7d"

def opening : String :=
  "<!DOCTYPE html>\n<html lang=\"en\">\n<head>\n" ++
  "<meta charset=\"UTF-8\">\n" ++
  "<meta name=\"viewport\" content=\"width=device-width, initial-scale=1.0\">\n" ++
  "<title>B-Tree Notes</title>\n" ++
  "<style>\n" ++ style ++ "\n</style>\n" ++
  "</head>\n<body>\n<div class=\"container\">\n" ++
  "<h1>B-Tree Notes</h1>\n"

def statusLine (status : Connectivity) : List Piece :=
  [.markup "<div id=\"db-status\">", .text status.text, .markup "</div>\n"]

def alertBox (message : String) : List Piece :=
  [.markup "<div class=\"alert\">", .text message, .markup "</div>\n"]

def formFields (form : Form) : List Piece :=
  [.markup "<form id=\"noteForm\" method=\"post\">\n",
    .markup "<input id=\"noteTitle\" name=\"title\" placeholder=\"Title\" value=\"",
    .text form.title,
    .markup "\">\n",
    .markup "<textarea id=\"noteContent\" name=\"content\" placeholder=\"Content\">",
    .text form.content,
    .markup "</textarea>\n",
    .markup "<button type=\"submit\">Save Note</button>\n</form>\n"]

def card (note : Note) : List Piece :=
  [.markup "<div class=\"note-card\">\n<h3>",
    .text note.title,
    .markup "</h3>\n<p>",
    .text note.content,
    .markup "</p>\n<div class=\"actions\">\n<button class=\"delete-btn\" data-note-id=\"",
    .text (Decimal.int note.id.toInt),
    .markup "\">",
    .text deleteLabel,
    .markup "</button>\n</div>\n</div>\n"]

def grid : Listing → List Piece
  | .placeholder => [.markup "<p>", .text Listing.placeholderText, .markup "</p>\n"]
  | .cards notes => notes.flatMap card

def pieces (p : Page) (form : Form) : List Piece :=
  .markup opening :: statusLine p.status ++ p.alerts.flatMap alertBox ++ formFields form ++
    .markup "<div id=\"notesGrid\">\n" :: grid p.listing ++
    [.markup "</div>\n</div>\n</body>\n</html>\n"]

def text (p : Page) (form : Form) : String := Markup.write (p.pieces form)

end Page
end RemoteNotebook

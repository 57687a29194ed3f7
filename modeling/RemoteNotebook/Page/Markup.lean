/-!
Markup of a page, as pieces: markup that stands as it is, and text in which the five characters
with a meaning in markup are replaced by references. Text is good for the content of an element and
for an attribute value in either kind of quotes.
-/

namespace RemoteNotebook.Markup

def escapeChar : Char → List Char
  | '&' => ['&', 'a', 'm', 'p', ';']
  | '<' => ['&', 'l', 't', ';']
  | '>' => ['&', 'g', 't', ';']
  | '"' => ['&', 'q', 'u', 'o', 't', ';']
  | '\'' => ['&', '#', '3', '9', ';']
  | c => [c]

def escapeChars (cs : List Char) : List Char := cs.flatMap escapeChar

def escape (s : String) : String := String.ofList (escapeChars s.toList)

inductive Piece where
  | markup (text : String)
  | text (text : String)
  deriving DecidableEq, Repr

def Piece.write : Piece → String
  | markup m => m
  | text t => escape t

def write (pieces : List Piece) : String := String.join (pieces.map Piece.write)

end RemoteNotebook.Markup

/-!
String literals of the database's SQL. A literal stands between single quotes, and inside it a
backslash takes the next character as it is. `quote` writes a literal, `unescape` reads the text
between its quotes, and `scan` splits a statement into what is outside and inside of its literals.
-/

namespace RemoteNotebook.Sql.Literal

def escape : List Char → List Char
  | [] => []
  | c :: cs => if c = '\'' ∨ c = '\\' then '\\' :: c :: escape cs else c :: escape cs

def quote (s : String) : String := String.ofList ('\'' :: escape s.toList ++ ['\''])

/-- The text that a literal stands for, from what is between its quotes. A backslash at the very
end stands for itself. -/
def unescapeChars : List Char → List Char
  | [] => []
  | ['\\'] => ['\\']
  | '\\' :: c :: cs => c :: unescapeChars cs
  | c :: cs => c :: unescapeChars cs

def unescape (s : String) : String := String.ofList (unescapeChars s.toList)

/-- Where a scan stands, with what it read since the last literal: outside of literals, inside of
one, or inside of one behind a backslash. -/
inductive Place where
  | outside (text : List Char)
  | inside (text raw : List Char)
  | escaped (text raw : List Char)
  deriving DecidableEq, Repr

structure Scan where
  closed : List (List Char × List Char) := []
  place : Place := .outside []
  deriving DecidableEq, Repr

namespace Scan

/-- Reads a character. A quote opens a literal and closes it, but for one behind a backslash. -/
def step (s : Scan) (c : Char) : Scan :=
  match s.place with
  | .outside text =>
    if c = '\'' then { s with place := .inside text [] }
    else { s with place := .outside (text ++ [c]) }
  | .inside text raw =>
    if c = '\'' then ⟨s.closed ++ [(text, raw)], .outside []⟩
    else if c = '\\' then { s with place := .escaped text (raw ++ [c]) }
    else { s with place := .inside text (raw ++ [c]) }
  | .escaped text raw => { s with place := .inside text (raw ++ [c]) }

def outside (s : Scan) : List Char :=
  s.closed.flatMap (·.1) ++
    match s.place with
    | .outside text | .inside text _ | .escaped text _ => text

end Scan

def scan (statement : List Char) : Scan := statement.foldl Scan.step {}

end RemoteNotebook.Sql.Literal

import RemoteNotebook.Json.Value
import RemoteNotebook.Decimal.Shortest

/-!
The compact text of a JSON value: no spaces, and no character of a string escaped but the quote,
the backslash and the control characters below U+0020.
-/

namespace RemoteNotebook.Json

def hexDigit (n : Nat) : Char :=
  if n < 10 then Char.ofNat (0x30 + n) else Char.ofNat (0x61 + n - 10)

def escapeChar (c : Char) : List Char :=
  match c with
  | '"' => ['\\', '"']
  | '\\' => ['\\', '\\']
  | '\x08' => ['\\', 'b']
  | '\t' => ['\\', 't']
  | '\n' => ['\\', 'n']
  | '\x0c' => ['\\', 'f']
  | '\r' => ['\\', 'r']
  | c =>
    if c.toNat < 0x20 then
      ['\\', 'u', '0', '0', hexDigit (c.toNat / 16), hexDigit (c.toNat % 16)]
    else [c]

def quoted (s : String) : List Char := '"' :: s.toList.flatMap escapeChar ++ ['"']

/-- Doubles from 0.00001 up and below 1e+16 are written without an exponent. -/
def doubleRange : Decimal.PlainRange := ⟨-5, 15⟩

mutual

def chars : Json → List Char
  | .null => ['n', 'u', 'l', 'l']
  | .bool true => ['t', 'r', 'u', 'e']
  | .bool false => ['f', 'a', 'l', 's', 'e']
  | .int i => Decimal.intChars i
  | .double x => (Decimal.binary64 doubleRange x).toList
  | .str s => quoted s
  | .arr items => '[' :: itemChars items ++ [']']
  | .obj members => '\x7b' :: memberChars members ++ ['\x7d']

def itemChars : List Json → List Char
  | [] => []
  | [v] => chars v
  | v :: w :: vs => chars v ++ ',' :: itemChars (w :: vs)

def memberChars : List (String × Json) → List Char
  | [] => []
  | [(k, v)] => quoted k ++ ':' :: chars v
  | (k, v) :: m :: ms => quoted k ++ ':' :: chars v ++ ',' :: memberChars (m :: ms)

end

def compact (v : Json) : String := String.ofList (chars v)

/-- The text of an object whose members keep the given order. -/
def compactMembers (members : List (String × Json)) : String :=
  String.ofList ('\x7b' :: memberChars members ++ ['\x7d'])

end RemoteNotebook.Json

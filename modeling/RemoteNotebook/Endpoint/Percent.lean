import RemoteNotebook.Text.CharSet
import RemoteNotebook.Text.Utf8

/-!
Percent-encoding. Each part of an address has its own set of characters that are written as the
bytes of their UTF-8 form, two digits each; characters outside ASCII always are.
-/

namespace RemoteNotebook.Endpoint.Percent

def hexDigit (n : Nat) : Char :=
  if n < 10 then Char.ofNat (0x30 + n) else Char.ofNat (0x41 + n - 10)

def encodeByte (b : UInt8) : List Char :=
  ['%', hexDigit (b.toNat / 16), hexDigit (b.toNat % 16)]

/-- The characters that no part of an address holds as they are. -/
def inControls (c : Char) : Bool := c.toNat < 0x20 || 0x7F ≤ c.toNat

def inFragment (c : Char) : Bool :=
  inControls c || c = ' ' || c = '"' || c = '<' || c = '>' || c = '\x60'

def inQuery (c : Char) : Bool :=
  inControls c || c = ' ' || c = '"' || c = '#' || c = '<' || c = '>'

/-- The query of a scheme with a default port has no single quotes either. -/
def inSpecialQuery (c : Char) : Bool := inQuery c || c = '\''

def inPath (c : Char) : Bool :=
  inFragment c || c = '#' || c = '?' || c = '\x7b' || c = '\x7d'

def inUserinfo (c : Char) : Bool :=
  inPath c || c = '/' || c = ':' || c = ';' || c = '=' || c = '@' || c = '[' || c = '\\' ||
    c = ']' || c = '^' || c = '|'

def encode (inSet : Char → Bool) (cs : List Char) : String :=
  String.ofList <| cs.flatMap fun c =>
    if inSet c then (String.utf8EncodeChar c).flatMap encodeByte else [c]

/-- The bytes of a text whose encoded bytes are decoded. A percent sign without two digits behind
it stands for itself. -/
def decode : List Char → List UInt8
  | [] => []
  | '%' :: a :: b :: cs =>
    match Text.hexValue? a, Text.hexValue? b with
    | some h, some l => UInt8.ofNat (h * 16 + l) :: decode cs
    | _, _ => 0x25 :: decode (a :: b :: cs)
  | c :: cs => String.utf8EncodeChar c ++ decode cs

end RemoteNotebook.Endpoint.Percent

import RemoteNotebook.Decimal.Integer
import RemoteNotebook.Endpoint.Domain
import RemoteNotebook.Endpoint.Percent

/-!
Hosts of an address: names and internet addresses of version 4 and 6, in their many spellings, and
the one spelling that each is written in.
-/

namespace RemoteNotebook.Endpoint

inductive Fault where
  | relative
  | emptyHost
  | port
  | ipv4
  | ipv6
  | domain
  | hostCharacter
  deriving DecidableEq, Repr

def Fault.message : Fault → String
  | relative => "relative URL without a base"
  | emptyHost => "empty host"
  | port => "invalid port number"
  | ipv4 => "invalid IPv4 address"
  | ipv6 => "invalid IPv6 address"
  | domain => "invalid international domain name"
  | hostCharacter => "invalid domain character"

inductive Host where
  | name (text : String)
  | ipv4 (address : Nat)
  | ipv6 (pieces : List Nat)
  deriving DecidableEq, Repr

namespace Host

/-- A number in decimal, in octal behind `0`, or in hexadecimal behind `0x`. -/
def ipv4Number? (cs : List Char) : Option Nat :=
  let radix (base : Nat) (ds : List Char) : Option Nat :=
    ds.foldlM (fun n c => (Text.hexValue? c).bind fun d =>
      if d < base then some (n * base + d) else none) 0
  match cs with
  | [] => none
  | '0' :: 'x' :: ds | '0' :: 'X' :: ds => radix 16 ds
  | '0' :: d :: ds => radix 8 (d :: ds)
  | ds => radix 10 ds

/-- The labels of a name, without an empty one at the end. -/
def ipv4Parts (cs : List Char) : List (List Char) :=
  let parts := Domain.splitAll (· = '.') cs
  if parts.getLast? = some [] then parts.dropLast else parts

/-- Whether a name has to be an address: its last label is a number. -/
def endsInNumber (cs : List Char) : Bool :=
  match (ipv4Parts cs).getLast? with
  | some last => (!last.isEmpty && last.all Decimal.isDigit) || (ipv4Number? last).isSome
  | none => false

/-- The address that numbers write: each but the last is one byte, the last fills the rest. -/
def ipv4OfNumbers? (numbers : List Nat) : Option Nat :=
  match numbers.reverse with
  | [] => none
  | last :: before =>
    let room := Nat.pow 256 (4 - before.length)
    if before.length ≤ 3 ∧ before.all (· ≤ 255) ∧ last < room then
      some (before.reverse.foldl (fun n b => n * 256 + b) 0 * room + last)
    else none

def ipv4? (cs : List Char) : Option Nat :=
  let parts := ipv4Parts cs
  if parts.length ≤ 4 then (parts.mapM ipv4Number?).bind ipv4OfNumbers? else none

def piece? (cs : List Char) : Option Nat :=
  if cs.isEmpty ∨ 4 < cs.length then none
  else cs.foldlM (fun n c => (Text.hexValue? c).map (n * 16 + ·)) 0

/-- A byte in decimal without leading zeros. -/
def byte? (cs : List Char) : Option Nat :=
  if cs.isEmpty ∨ !cs.all Decimal.isDigit ∨ (cs.head? = some '0' ∧ 1 < cs.length) ∨
      255 < Decimal.value cs then
    none
  else some (Decimal.value cs)

/-- The last part of an address, which may be one of version 4 and then makes two pieces. -/
def lastPieces? (cs : List Char) : Option (List Nat) :=
  if cs.contains '.' then
    match (Domain.splitAll (· = '.') cs).mapM byte? with
    | some [a, b, c, d] => some [a * 256 + b, c * 256 + d]
    | _ => none
  else (piece? cs).map ([·])

def pieces? (cs : List Char) : Option (List Nat) :=
  if cs.isEmpty then some []
  else
    let parts := Domain.splitAll (· = ':') cs
    (parts.dropLast.mapM piece?).bind fun front =>
      (lastPieces? (parts.getLast?.getD [])).map (front ++ ·)

def splitGap : List Char → Option (List Char × List Char)
  | [] => none
  | ':' :: ':' :: cs => some ([], cs)
  | c :: cs => (splitGap cs).map fun x => (c :: x.1, x.2)

/-- Eight pieces, or fewer around two colons that stand for one or more zeros. -/
def ipv6? (cs : List Char) : Option (List Nat) :=
  match splitGap cs with
  | none => (pieces? cs).bind fun ps => if ps.length = 8 then some ps else none
  | some (front, back) =>
    if front.contains '.' then none
    else
      (pieces? front).bind fun f => (pieces? back).bind fun b =>
        if f.length + b.length < 8 then
          some (f ++ List.replicate (8 - f.length - b.length) 0 ++ b)
        else none

/-- The place and length of the first of the longest runs of zeros. -/
def longestZeros (place : Nat) : List Nat → Nat × Nat
  | [] => (place, 0)
  | p :: ps =>
    let here := ((p :: ps).takeWhile (· = 0)).length
    let later := longestZeros (place + 1) ps
    if later.2 ≤ here then (place, here) else later

def hexDigits (n : Nat) : List Char := Nat.toDigits 16 n

def joinPieces (ps : List Nat) : List Char := [':'].intercalate (ps.map hexDigits)

/-- Two or more zeros together are left out, once. -/
def ipv6Chars (ps : List Nat) : List Char :=
  let (start, length) := longestZeros 0 ps
  if length < 2 then joinPieces ps
  else joinPieces (ps.take start) ++ [':', ':'] ++ joinPieces (ps.drop (start + length))

def text : Host → String
  | name s => s
  | ipv4 a =>
    String.intercalate "."
      ([a / Nat.pow 256 3, a / Nat.pow 256 2 % 256, a / 256 % 256, a % 256].map Decimal.nat)
  | ipv6 ps => String.ofList ('[' :: ipv6Chars ps ++ [']'])

def ofBrackets (cs : List Char) : Except Fault Host :=
  match if cs.getLast? = some ']' then ipv6? (cs.drop 1).dropLast else none with
  | some ps => .ok (.ipv6 ps)
  | none => .error .ipv6

def parse (cs : List Char) : Except Fault Host :=
  if cs.head? = some '[' then ofBrackets cs
  else
    match (Text.Utf8.decode (Percent.decode cs)).bind Domain.toAscii with
    | none => .error .domain
    | some ascii =>
      if ascii.isEmpty then .error .emptyHost
      else if endsInNumber ascii then
        match ipv4? ascii with
        | some a => .ok (.ipv4 a)
        | none => .error .ipv4
      else .ok (.name (String.ofList ascii))

/-- The host of any other scheme: its text is kept. -/
def parseAny (cs : List Char) : Except Fault Host :=
  if cs.head? = some '[' then ofBrackets cs
  else if cs.any ("\x00\t\n\r #/:<>?@[\\]^|".toList.contains ·) then .error .hostCharacter
  else .ok (.name (Percent.encode Percent.inControls cs))

end Host
end RemoteNotebook.Endpoint

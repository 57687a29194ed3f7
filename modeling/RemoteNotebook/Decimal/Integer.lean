/-!
Whole numbers in decimal. `Decimal.nat` writes a natural number without leading zeros, and
`Decimal.int64?` reads an optional sign and at least one digit, as long as the value is a signed
64-bit one.
-/

namespace RemoteNotebook.Decimal

def digitChar (d : Nat) : Char := Char.ofNat (0x30 + d % 10)

def natDigits (n : Nat) : List Char :=
  if n < 10 then [digitChar n] else natDigits (n / 10) ++ [digitChar n]
termination_by n
decreasing_by omega

def nat (n : Nat) : String := String.ofList (natDigits n)

def intChars (i : Int) : List Char :=
  if i < 0 then '-' :: natDigits i.natAbs else natDigits i.natAbs

def int (i : Int) : String := String.ofList (intChars i)

def isDigit (c : Char) : Bool := '0' ≤ c && c ≤ '9'

def digitValue (c : Char) : Nat := c.toNat - 0x30

def value (ds : List Char) : Nat := ds.foldl (fun n c => n * 10 + digitValue c) 0

/-- Reads one or more digits and nothing else. -/
def nat? (cs : List Char) : Option Nat :=
  if cs.isEmpty then none else if cs.all isDigit then some (value cs) else none

/-- Reads digits after an optional sign. -/
def int? : List Char → Option Int
  | '+' :: cs => (nat? cs).map (fun n => (n : Int))
  | '-' :: cs => (nat? cs).map (fun n => -(n : Int))
  | cs => (nat? cs).map (fun n => (n : Int))

def toInt64? (i : Int) : Option Int64 :=
  if Int64.minValue.toInt ≤ i ∧ i ≤ Int64.maxValue.toInt then some (Int64.ofInt i) else none

def int64? (cs : List Char) : Option Int64 := (int? cs).bind toInt64?

end RemoteNotebook.Decimal

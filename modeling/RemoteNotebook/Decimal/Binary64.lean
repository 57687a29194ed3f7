/-!
Finite numbers of the binary64 format as a sign and a magnitude `mantissa · 2 ^ exponent`, and
rounding to them in exact arithmetic: the nearest one, and of two equally near the one with the
even mantissa.
-/

namespace RemoteNotebook.Decimal

/-- A magnitude `mantissa · 2 ^ exponent`. In a rounded one the mantissa has 53 bits, or fewer
where the exponent is the least one. -/
structure Magnitude where
  mantissa : Nat
  exponent : Int
  deriving DecidableEq, Repr

namespace Magnitude

def leastExponent : Int := -1074
def greatestExponent : Int := 971

def zero : Magnitude := ⟨0, leastExponent⟩

def numerator (x : Magnitude) : Nat := x.mantissa * Nat.pow 2 x.exponent.toNat
def denominator (x : Magnitude) : Nat := Nat.pow 2 (-x.exponent).toNat

/-- The exponent at which the quotient has a mantissa of 53 bits, not below the least one. -/
def exponentOf (num den : Nat) : Int :=
  let e : Int := (Nat.log2 num : Int) - Nat.log2 den - 53
  let e := if den * Nat.pow 2 (53 + e).toNat ≤ num * Nat.pow 2 (-(53 + e)).toNat then e + 1 else e
  max e leastExponent

def divideToEven (num den : Nat) : Nat :=
  let q := num / den
  let r := num % den
  if 2 * r > den ∨ (2 * r = den ∧ q % 2 = 1) then q + 1 else q

/-- The nearest magnitude to the quotient `num / den`; none when it is beyond the greatest one. -/
def round (num den : Nat) : Option Magnitude :=
  if num = 0 then some zero
  else
    let e := exponentOf num den
    let m := divideToEven (num * Nat.pow 2 (-e).toNat) (den * Nat.pow 2 e.toNat)
    let x : Magnitude := if m = Nat.pow 2 53 then ⟨Nat.pow 2 52, e + 1⟩ else ⟨m, e⟩
    if x.exponent ≤ greatestExponent then some x else none

def tenTo (k : Nat) : Magnitude := (round (Nat.pow 10 k) 1).getD zero

def mul (x y : Magnitude) : Option Magnitude :=
  round (x.numerator * y.numerator) (x.denominator * y.denominator)

def div (x y : Magnitude) : Option Magnitude :=
  round (x.numerator * y.denominator) (x.denominator * y.numerator)

def greatestTen : Nat := 308

/-- `x / 10 ^ k` in as few roundings as powers of ten allow. -/
def shiftDown (x : Magnitude) (k : Nat) : Option Magnitude :=
  if k ≤ greatestTen then x.div (tenTo k)
  else if x.mantissa = 0 then some x
  else (x.div (tenTo greatestTen)).bind (·.shiftDown (k - greatestTen))
termination_by k
decreasing_by simp only [greatestTen] at *; omega

/-- `significand · 10 ^ k`: the significand is rounded first, then the product or quotient. None
when the result is beyond the greatest magnitude. -/
def ofScientific (significand : Nat) (k : Int) : Option Magnitude :=
  (round significand 1).bind fun x =>
    if k < 0 then x.shiftDown k.natAbs
    else if k.toNat ≤ greatestTen then x.mul (tenTo k.toNat)
    else if x.mantissa = 0 then some x
    else none

end Magnitude

structure Binary64 where
  negative : Bool
  magnitude : Magnitude
  deriving DecidableEq, Repr

end RemoteNotebook.Decimal

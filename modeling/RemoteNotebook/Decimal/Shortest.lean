import RemoteNotebook.Decimal.Binary64
import RemoteNotebook.Decimal.Integer

/-!
The shortest decimal text of a binary64 number: the fewest digits that read back as the number,
and of those the nearest to it, a tie going to the even last digit.
-/

namespace RemoteNotebook.Decimal

namespace Magnitude

/-- A positive magnitude and the ends of the interval that rounds to it, over one denominator. The
ends belong to the interval when the mantissa is even. -/
structure Interval where
  low : Nat
  value : Nat
  high : Nat
  denominator : Nat
  closed : Bool

/-- Just above a power of two the next magnitude below is half as far away. -/
def interval (x : Magnitude) : Interval :=
  let unit := Nat.pow 2 x.exponent.toNat
  let below := if x.mantissa = Nat.pow 2 52 ∧ leastExponent < x.exponent then 1 else 2
  { low := (4 * x.mantissa - below) * unit
    value := 4 * x.mantissa * unit
    high := (4 * x.mantissa + 2) * unit
    denominator := 4 * x.denominator
    closed := x.mantissa % 2 = 0 }

def leadingTen (num den : Nat) : Int :=
  if den ≤ num then ((natDigits (num / den)).length : Int) - 1
  else -((natDigits ((den + num - 1) / num - 1)).length : Int)

structure Scientific where
  digits : Nat
  exponent : Int
  deriving DecidableEq, Repr

/-- The number of the grid of the multiples of `10 ^ p` that lies in the interval, if one does: one
of the two neighbours of the value, and of two the nearer. -/
def onGrid (i : Interval) (p : Int) : Option Scientific :=
  let up := Nat.pow 10 p.toNat
  let down := Nat.pow 10 (-p).toNat
  let step := i.denominator * up
  let c := i.value * down / step
  let inside (n : Nat) : Bool :=
    if i.closed then i.low * down ≤ n * step && n * step ≤ i.high * down
    else i.low * down < n * step && n * step < i.high * down
  let before := i.value * down - c * step
  let after := (c + 1) * step - i.value * down
  match inside c, inside (c + 1) with
  | true, true =>
    if before < after ∨ (before = after ∧ c % 2 = 0) then some ⟨c, p⟩ else some ⟨c + 1, p⟩
  | true, false => some ⟨c, p⟩
  | false, true => some ⟨c + 1, p⟩
  | false, false => none

/-- The first grid with a number of the interval, from one digit on; seventeen are enough. -/
def shortest (x : Magnitude) : Scientific :=
  let i := x.interval
  let lead := leadingTen i.value i.denominator
  ((List.range 17).findSome? fun (n : Nat) => onGrid i (lead - n)).getD ⟨x.numerator, 0⟩

end Magnitude

/-- Which numbers are written without an exponent: those whose leading digit stands for `10 ^ k`
with `k` from `least` to `greatest`. -/
structure PlainRange where
  least : Int
  greatest : Int

/-- Digits as a text with a decimal point, or in scientific form outside of the plain range. A
whole number keeps one zero after the point, an exponent always has its sign. -/
def layOut (range : PlainRange) (digits : List Char) (exponent : Int) : List Char :=
  let k := exponent + digits.length - 1
  if range.least ≤ k ∧ k ≤ range.greatest then
    if 0 ≤ exponent then digits ++ List.replicate exponent.toNat '0' ++ ['.', '0']
    else if 0 ≤ k then digits.take (k.toNat + 1) ++ '.' :: digits.drop (k.toNat + 1)
    else '0' :: '.' :: List.replicate (-k - 1).toNat '0' ++ digits
  else
    let tail := if digits.length ≤ 1 then [] else '.' :: digits.drop 1
    digits.take 1 ++ tail ++ 'e' :: (if k < 0 then '-' else '+') :: natDigits k.natAbs

def binary64 (range : PlainRange) (x : Binary64) : String :=
  let sign := if x.negative then ['-'] else []
  if x.magnitude.mantissa = 0 then String.ofList (sign ++ ['0', '.', '0'])
  else
    let s := x.magnitude.shortest
    let ds := natDigits s.digits
    let kept := (ds.reverse.dropWhile (· = '0')).reverse
    String.ofList (sign ++ layOut range kept (s.exponent + (ds.length - kept.length : Nat)))

end RemoteNotebook.Decimal

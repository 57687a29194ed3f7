import RemoteNotebook.Text.CompositionTable

/-!
Canonical composition: a text is taken apart into letters and marks, the marks of each letter are
put in the order of their classes, and what makes one character is put together again.
-/

namespace RemoteNotebook.Text

def leadBase : Nat := 0x1100
def vowelBase : Nat := 0x1161
def trailBase : Nat := 0x11A7
def syllableBase : Nat := 0xAC00
def vowelCount : Nat := 21
def trailCount : Nat := 28
def leadCount : Nat := 19

def syllableParts (n : Nat) : List Char :=
  let i := n - syllableBase
  let parts := [leadBase + i / (vowelCount * trailCount),
    vowelBase + i % (vowelCount * trailCount) / trailCount]
  (if i % trailCount = 0 then parts else parts ++ [trailBase + i % trailCount]).map Char.ofNat

def isSyllable (n : Nat) : Bool :=
  syllableBase ≤ n && n < syllableBase + leadCount * vowelCount * trailCount

def syllable? (a b : Nat) : Option Char :=
  if leadBase ≤ a ∧ a < leadBase + leadCount ∧ vowelBase ≤ b ∧ b < vowelBase + vowelCount then
    some (Char.ofNat
      (syllableBase + ((a - leadBase) * vowelCount + (b - vowelBase)) * trailCount))
  else if isSyllable a ∧ (a - syllableBase) % trailCount = 0 ∧ trailBase < b ∧
      b < trailBase + trailCount then
    some (Char.ofNat (a + (b - trailBase)))
  else none

def decompose (c : Char) : List Char :=
  if c.toNat < 0x80 then [c]
  else if isSyllable c.toNat then syllableParts c.toNat
  else (decompositions.lookup c.toNat).getD [c]

/-- The combining class of a character, zero for a character that does not combine. -/
def combiningClass (c : Char) : Nat :=
  if c.toNat < 0x80 then 0
  else ((combiningClasses.find? fun row => row.2.contains c).map (·.1)).getD 0

def pair? (a b : Char) : Option Char :=
  (syllable? a.toNat b.toNat).or
    ((compositions.find? fun row => row.2 == [a.toNat, b.toNat]).map fun row => Char.ofNat row.1)

/-- Puts a character in front of ordered ones, behind the marks of lower classes. -/
def place (c : Char) : List Char → List Char
  | [] => [c]
  | d :: ds =>
    if 0 < combiningClass d ∧ combiningClass d < combiningClass c then d :: place c ds
    else c :: d :: ds

def orderMarks (cs : List Char) : List Char := cs.foldr place []

/-- Composes what comes after a letter. `between` are the marks after it that did not compose, in
reverse, and the last of them is of the class `last`. -/
def composeAfter (letter : Char) (between : List Char) (last : Nat) : List Char → List Char
  | [] => letter :: between.reverse
  | c :: cs =>
    let k := combiningClass c
    match if between.isEmpty || last < k then pair? letter c else none with
    | some p => composeAfter p between last cs
    | none =>
      if k = 0 then letter :: between.reverse ++ composeAfter c [] 0 cs
      else composeAfter letter (c :: between) k cs

def composeOrdered : List Char → List Char
  | [] => []
  | c :: cs =>
    if combiningClass c = 0 then composeAfter c [] 0 cs else c :: composeOrdered cs

def compose (cs : List Char) : List Char := composeOrdered (orderMarks (cs.flatMap decompose))

end RemoteNotebook.Text

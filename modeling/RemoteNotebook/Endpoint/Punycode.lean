/-!
Punycode: a text as its ASCII characters and, behind the last hyphen, the places and code points of
the others. They are listed in the order of code points and then of places; each is written as its
distance from the one before, in digits of base 36 whose weights adapt to the distances seen.
-/

namespace RemoteNotebook.Endpoint.Punycode

def base : Nat := 36

def digitChar (d : Nat) : Char := if d < 26 then Char.ofNat (0x61 + d) else Char.ofNat (0x16 + d)

def digitValue? (c : Char) : Option Nat :=
  if 'a' ≤ c ∧ c ≤ 'z' then some (c.toNat - 0x61)
  else if 'A' ≤ c ∧ c ≤ 'Z' then some (c.toNat - 0x41)
  else if '0' ≤ c ∧ c ≤ '9' then some (c.toNat - 0x16)
  else none

def threshold (place bias : Nat) : Nat := max 1 (min 26 (place - bias))

theorem threshold_bounds (place bias : Nat) :
    1 ≤ threshold place bias ∧ threshold place bias ≤ 26 := by
  simp only [threshold]
  omega

/-- How often a distance has to be divided to be small, and what is left of it. -/
def damp (distance places : Nat) : Nat × Nat :=
  if 455 < distance then damp (distance / 35) (places + base) else (distance, places)
termination_by distance
decreasing_by omega

/-- The bias for the distances after one: `count` characters are placed by now. -/
def adapt (distance count : Nat) (isFirst : Bool) : Nat :=
  let d := if isFirst then distance / 700 else distance / 2
  let (small, places) := damp (d + d / count) 0
  places + base * small / (small + 38)

def digits (bias place distance : Nat) : List Char :=
  let t := threshold place bias
  if distance < t then [digitChar distance]
  else
    digitChar (t + (distance - t) % (base - t)) ::
      digits bias (place + base) ((distance - t) / (base - t))
termination_by distance
decreasing_by
  have := threshold_bounds place bias
  have : (distance - threshold place bias) / (base - threshold place bias) ≤
      distance - threshold place bias := Nat.div_le_self _ _
  omega

/-- A writer between two characters: the text so far in reverse, the distance since the last
character written and how many there are. -/
structure Writer where
  written : List Char
  distance : Nat
  bias : Nat
  count : Nat

/-- Passes one character of the text while the characters with the code point `code` are written;
`ascii` is the number of ASCII characters. -/
def Writer.pass (ascii code : Nat) (w : Writer) (c : Char) : Writer :=
  if c.toNat < code then { w with distance := w.distance + 1 }
  else if c.toNat = code then
    { written := (digits w.bias base w.distance).reverse ++ w.written
      distance := 0
      bias := adapt w.distance (w.count + 1) (w.count = ascii)
      count := w.count + 1 }
  else w

/-- Writes the characters of the given code points, in order. `least` is the first code point that
may be among them. -/
def Writer.passes (text : List Char) (ascii : Nat) : List Nat → Nat → Writer → Writer
  | [], _, w => w
  | code :: codes, least, w =>
    let start := { w with distance := w.distance + (code - least) * (w.count + 1) }
    let done := text.foldl (Writer.pass ascii code) start
    passes text ascii codes (code + 1) { done with distance := done.distance + 1 }

def isAscii (c : Char) : Bool := c.toNat < 0x80

def encode (text : List Char) : List Char :=
  let ascii := text.filter isAscii
  let codes := ((text.filter (!isAscii ·)).map Char.toNat).mergeSort.eraseReps
  let start : Writer := ⟨if ascii.isEmpty then [] else '-' :: ascii.reverse, 0, 72, ascii.length⟩
  (Writer.passes text ascii.length codes 0x80 start).written.reverse

def distance? (bias place weight sum : Nat) : (cs : List Char) →
    Option (Nat × { rest : List Char // rest.length < cs.length })
  | [] => none
  | c :: cs =>
    match digitValue? c with
    | none => none
    | some d =>
      let t := threshold place bias
      if d < t then some (sum + d * weight, ⟨cs, by simp⟩)
      else
        (distance? bias (place + base) (weight * (base - t)) (sum + d * weight) cs).map fun x =>
          (x.1, ⟨x.2.val, by have := x.2.property; simp only [List.length_cons]; omega⟩)

/-- Puts the characters of the distances in `cs` into a text. `place` is the one behind the last
character put in, and `code` is the code point of that character. -/
def insertAll (text : List Char) (bias code place : Nat) (isFirst : Bool) (cs : List Char) :
    Option (List Char) :=
  if cs.isEmpty then some text
  else
    match distance? bias base 1 0 cs with
    | none => none
    | some (d, rest) =>
      let count := text.length + 1
      let next := code + (place + d) / count
      let i := (place + d) % count
      if next.isValidChar then
        insertAll (text.take i ++ Char.ofNat next :: text.drop i) (adapt d count isFirst) next
          (i + 1) false rest.val
      else none
termination_by cs.length
decreasing_by exact rest.property

/-- A hyphen at the very start has no ASCII characters before it and is no separator. -/
def decode (cs : List Char) : Option (List Char) :=
  let tail := (cs.reverse.takeWhile (· ≠ '-')).reverse
  let head := cs.take (cs.length - tail.length - 1)
  if head.all isAscii ∧ (head.isEmpty → tail.length = cs.length) then
    insertAll head 72 0x80 0 true tail
  else none

end RemoteNotebook.Endpoint.Punycode

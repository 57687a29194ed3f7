/-!
UTF-8 over lists of bytes. `decode` accepts well-formed sequences only: no overlong form, no
surrogate, nothing above U+10FFFF and no piece of a character left over. `lossy` reads any bytes
and puts the replacement character where they are malformed.
-/

namespace RemoteNotebook.Text.Utf8

def isTail (b : UInt8) : Bool := 0x80 ≤ b && b ≤ 0xBF

def payload (b : UInt8) : Nat := b.toNat % 0x40

def char? (n : Nat) : Option Char :=
  if h : n.isValidChar then some (Char.ofNatAux n h) else none

def two (a b : UInt8) : Option Char :=
  if 0xC2 ≤ a && a ≤ 0xDF && isTail b then char? (a.toNat % 0x20 * 0x40 + payload b) else none

/-- Whether `b` may stand after the lead byte `a` of three: no overlong form and no surrogate. -/
def startsThree (a b : UInt8) : Bool :=
  0xE0 ≤ a && a ≤ 0xEF && isTail b && (a != 0xE0 || 0xA0 ≤ b) && (a != 0xED || b ≤ 0x9F)

def three (a b c : UInt8) : Option Char :=
  if startsThree a b && isTail c then
    char? (a.toNat % 0x10 * 0x1000 + payload b * 0x40 + payload c)
  else none

/-- Whether `b` may stand after the lead byte `a` of four: no overlong form, nothing above
U+10FFFF. -/
def startsFour (a b : UInt8) : Bool :=
  0xF0 ≤ a && a ≤ 0xF4 && isTail b && (a != 0xF0 || 0x90 ≤ b) && (a != 0xF4 || b ≤ 0x8F)

def four (a b c d : UInt8) : Option Char :=
  if startsFour a b && isTail c && isTail d then
    char? (a.toNat % 8 * 0x40000 + payload b * 0x1000 + payload c * 0x40 + payload d)
  else none

def decode : List UInt8 → Option (List Char)
  | [] => some []
  | a :: as =>
    if a < 0x80 then (decode as).map (Char.ofNat a.toNat :: ·)
    else
      match as with
      | [] => none
      | b :: bs =>
        match two a b with
        | some ch => (decode bs).map (ch :: ·)
        | none =>
          match bs with
          | [] => none
          | c :: cs =>
            match three a b c with
            | some ch => (decode cs).map (ch :: ·)
            | none =>
              match cs with
              | [] => none
              | d :: ds =>
                match four a b c d with
                | some ch => (decode ds).map (ch :: ·)
                | none => none

def encode (cs : List Char) : List UInt8 := cs.flatMap String.utf8EncodeChar

/-- How many bytes of a malformed beginning one replacement character stands for: the longest
piece that could have begun a character, and at least one byte. -/
def malformedLength : List UInt8 → Nat
  | a :: b :: c :: _ =>
    if startsFour a b then (if isTail c then 3 else 2)
    else if startsThree a b then 2
    else 1
  | [a, b] => if startsFour a b || startsThree a b then 2 else 1
  | _ => 1

def first (bs : List UInt8) : Char × Nat :=
  match bs with
  | [] => ('\uFFFD', 1)
  | a :: as =>
    if a < 0x80 then (Char.ofNat a.toNat, 1)
    else
      match as with
      | b :: c :: d :: _ =>
        match two a b, three a b c, four a b c d with
        | some ch, _, _ => (ch, 2)
        | _, some ch, _ => (ch, 3)
        | _, _, some ch => (ch, 4)
        | _, _, _ => ('\uFFFD', malformedLength bs)
      | [b, c] =>
        match two a b, three a b c with
        | some ch, _ => (ch, 2)
        | _, some ch => (ch, 3)
        | _, _ => ('\uFFFD', malformedLength bs)
      | [b] =>
        match two a b with
        | some ch => (ch, 2)
        | none => ('\uFFFD', malformedLength bs)
      | [] => ('\uFFFD', 1)

/-- The text of any bytes, with replacement characters for what is malformed in them. -/
def lossy : List UInt8 → List Char
  | [] => []
  | b :: bs =>
    let (c, length) := first (b :: bs)
    c :: lossy (bs.drop (length - 1))
termination_by bs => bs.length
decreasing_by
  rw [List.length_drop]
  exact Nat.lt_succ_of_le (Nat.sub_le ..)

end RemoteNotebook.Text.Utf8

/-!
Sets of characters, written down as ranges of code points in hexadecimal.
-/

namespace RemoteNotebook.Text

def hexValue? (c : Char) : Option Nat :=
  if '0' ≤ c ∧ c ≤ '9' then some (c.toNat - 0x30)
  else if 'a' ≤ c ∧ c ≤ 'f' then some (c.toNat - 0x61 + 10)
  else if 'A' ≤ c ∧ c ≤ 'F' then some (c.toNat - 0x41 + 10)
  else none

/-- The number that hexadecimal digits write; other characters count as zero. -/
def ofHex (s : String) : Nat :=
  s.foldl (fun n c => n * 16 + (hexValue? c).getD 0) 0

structure CharSet where
  ranges : List (Nat × Nat)

namespace CharSet

/-- One range of a table: `lo-hi`, or a single code point. -/
def range (word : String) : Nat × Nat :=
  match word.splitOn "-" with
  | [lo, hi] => (ofHex lo, ofHex hi)
  | _ => (ofHex word, ofHex word)

/-- The set that the lines of a table describe, each with ranges between spaces. -/
def ofRanges (table : List String) : CharSet :=
  ⟨table.flatMap fun line => (line.splitOn " ").map range⟩

def contains (s : CharSet) (c : Char) : Bool :=
  s.ranges.any fun r => r.1 ≤ c.toNat && c.toNat ≤ r.2

end CharSet
end RemoteNotebook.Text

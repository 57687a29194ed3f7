import RemoteNotebook.Text.CaseTable

/-!
Lower case over all of Unicode. A capital sigma is the one letter whose lower case depends on its
neighbours: at the end of a word it becomes the final form.
-/

namespace RemoteNotebook.Text

namespace CaseRun

def lower? (r : CaseRun) (n : Nat) : Option Char :=
  if r.first ≤ n ∧ n ≤ r.last ∧ (n - r.first) % r.step = 0 then
    some (Char.ofNat (r.lower + (n - r.first)))
  else none

end CaseRun

/-- The lower case of one character away from other characters: a capital I with a dot above
becomes two characters, any other character one. -/
def lowerChar (c : Char) : List Char :=
  if c.toNat < 0x80 then [c.toLower]
  else if c = 'İ' then ['i', '\u0307']
  else [(caseRuns.findSome? (·.lower? c.toNat)).getD c]

/-- Whether the nearest character that is not case-ignorable is a cased one. -/
def meetsCased (cs : List Char) : Bool :=
  match cs.dropWhile caseIgnorableChars.contains with
  | c :: _ => casedChars.contains c
  | [] => false

/-- Lower case of the characters `cs` that come after `before`, which is kept in reverse. -/
def lowerAfter (before : List Char) : List Char → List Char
  | [] => []
  | c :: cs =>
    let low :=
      if c = 'Σ' then
        if meetsCased before && !meetsCased cs then ['ς'] else ['σ']
      else lowerChar c
    low ++ lowerAfter (c :: before) cs

def lowercase (s : String) : String := String.ofList (lowerAfter [] s.toList)

end RemoteNotebook.Text

import RemoteNotebook.Endpoint.Mapping
import RemoteNotebook.Endpoint.Properties
import RemoteNotebook.Endpoint.Punycode
import RemoteNotebook.Text.Composition

/-!
International domain names as ASCII. Characters are mapped to the ones that stand for them, the
name is composed and split into labels, and a label outside ASCII is written in Punycode after
`xn--`. A label that already has this form must be the one that its own text would get.
-/

namespace RemoteNotebook.Endpoint.Domain

open Text

def MapRun.image? (r : MapRun) (n : Nat) : Option (List Char) :=
  if r.first ≤ n ∧ n ≤ r.last ∧ (n - r.first) % r.step = 0 then
    some (r.image.map fun code => Char.ofNat (code + (n - r.first)))
  else none

def isValid (c : Char) : Bool :=
  if c.toNat < 0x80 then c.toLower = c else validChars.contains c

/-- What a character becomes; none if it is not allowed. -/
def mapChar (c : Char) : Option (List Char) :=
  if c.toNat < 0x80 then some [c.toLower]
  else if validChars.contains c then some [c]
  else if ignoredChars.contains c then some []
  else mapRuns.findSome? (·.image? c.toNat)

def mapName (cs : List Char) : Option (List Char) :=
  (cs.mapM mapChar).map fun parts => compose parts.flatten

/-- The pieces between the separators of a kind: one more than there are separators. -/
def splitAll (isSeparator : Char → Bool) : List Char → List (List Char)
  | [] => [[]]
  | c :: cs =>
    if isSeparator c then [] :: splitAll isSeparator cs
    else
      match splitAll isSeparator cs with
      | piece :: pieces => (c :: piece) :: pieces
      | [] => [[c]]

def isVirama (c : Char) : Bool := combiningClass c = 9

/-- Whether the letters around a place, past the characters that joining looks through, join. -/
def joinsAcross (before after : List Char) : Bool :=
  (before.dropWhile joinTransparent.contains).head?.any joinForward.contains &&
    (after.dropWhile joinTransparent.contains).head?.any joinBackward.contains

/-- Joiners stand after a virama only; one that keeps letters apart may also stand between letters
that would join. `before` is what comes before `cs`, in reverse. -/
def joinersFit (before : List Char) : List Char → Bool
  | [] => true
  | c :: cs =>
    let afterVirama := before.head?.any isVirama
    (if c = '\u200C' then afterVirama || joinsAcross before cs
      else if c = '\u200D' then afterVirama
      else true) && joinersFit (c :: before) cs

def maxLabelLength : Nat := 1000

def maxPunycodeLength : Nat := 2000

def isLabel (label : List Char) : Bool :=
  label.length ≤ maxLabelLength && label.all isValid && !label.head?.any markChars.contains &&
    joinersFit [] label

def marker : List Char := ['x', 'n', '-', '-']

/-- The text of a label of a mapped name; none if it has none. -/
def decodeLabel (label : List Char) : Option (List Char) :=
  if marker.isPrefixOf label then
    let written := label.drop marker.length
    if maxPunycodeLength < written.length then none
    else
      (Punycode.decode written).bind fun text =>
        if label.all Punycode.isAscii ∧ !text.all Punycode.isAscii ∧ compose text = text ∧
            isLabel text then
          some text
        else none
  else if label.all Punycode.isAscii || isLabel label then some label
  else none

def encodeLabel (label : List Char) : List Char :=
  if label.all Punycode.isAscii then label else marker ++ Punycode.encode label

def isRightToLeft (c : Char) : Bool := rightToLeftChars.contains c

def directionFits (label : List Char) : Bool :=
  let ending := (label.reverse.dropWhile nonspacingChars.contains).head?
  let isMiddle (c : Char) : Bool :=
    europeanNumberChars.contains c || neutralChars.contains c || nonspacingChars.contains c
  match label with
  | [] => true
  | first :: _ =>
    if isRightToLeft first then
      label.all (fun c => isRightToLeft c || arabicNumberChars.contains c || isMiddle c) &&
        ending.any (fun c => isRightToLeft c || europeanNumberChars.contains c ||
          arabicNumberChars.contains c) &&
        !(label.any europeanNumberChars.contains && label.any arabicNumberChars.contains)
    else
      leftToRightChars.contains first &&
        label.all (fun c => leftToRightChars.contains c || isMiddle c) &&
        ending.any fun c => leftToRightChars.contains c || europeanNumberChars.contains c

/-- Names with a right-to-left character have labels that all keep the rules of direction. -/
def directionsFit (labels : List (List Char)) : Bool :=
  !(labels.any (·.any fun c => isRightToLeft c || arabicNumberChars.contains c)) ||
    labels.all directionFits

def isForbidden (c : Char) : Bool :=
  c.toNat ≤ 0x20 || c.toNat = 0x7F || "%#/:<>?@[\\]^|".toList.contains c

def toAscii (name : List Char) : Option (List Char) :=
  (mapName name).bind fun mapped =>
    let labels := splitAll (· = '.') mapped
    (labels.mapM decodeLabel).bind fun texts =>
      if directionsFit texts then
        let ascii := ['.'].intercalate <| (labels.zip texts).map fun (label, _) => encodeLabel label
        if ascii.any isForbidden then none else some ascii
      else none

end RemoteNotebook.Endpoint.Domain

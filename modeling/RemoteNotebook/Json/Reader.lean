import RemoteNotebook.Json.Value
import RemoteNotebook.Decimal.Integer
import RemoteNotebook.Text.CharSet

/-!
Reading JSON text. A reader takes a value from the start of a text and says what is left, which is
always less than before, so reading ends without a bound on its steps. Nesting has a bound of its
own: a text with more than `depthLimit` arrays and objects inside one another is refused.
-/

namespace RemoteNotebook.Json

structure Found (α : Type) (cs : List Char) where
  value : α
  rest : List Char
  shorter : rest.length < cs.length

abbrev Reader (α : Type) := (cs : List Char) → Option (Found α cs)

namespace Found

variable {α β : Type} {cs ds : List Char}

def map (f : α → β) (x : Found α cs) : Found β cs := ⟨f x.value, x.rest, x.shorter⟩

def widen (x : Found α ds) (h : ds.length ≤ cs.length) : Found α cs :=
  ⟨x.value, x.rest, Nat.lt_of_lt_of_le x.shorter h⟩

end Found

/-- The blanks of JSON are fewer than those of Unicode. -/
def isSpace (c : Char) : Bool := c = ' ' || c = '\n' || c = '\t' || c = '\r'

def skipSpaces (cs : List Char) : List Char := cs.dropWhile isSpace

theorem length_skipSpaces_le (cs : List Char) : (skipSpaces cs).length ≤ cs.length :=
  (List.dropWhile_sublist isSpace).length_le

def next : Reader Char := fun cs =>
  match h : skipSpaces cs with
  | [] => none
  | c :: rest => some ⟨c, rest, by
      have := length_skipSpaces_le cs
      rw [h, List.length_cons] at this
      omega⟩

def hex4 : Reader Nat
  | a :: b :: c :: d :: rest =>
    match Text.hexValue? a, Text.hexValue? b, Text.hexValue? c, Text.hexValue? d with
    | some a, some b, some c, some d =>
      some ⟨a * 0x1000 + b * 0x100 + c * 0x10 + d, rest, by simp only [List.length_cons]; omega⟩
    | _, _, _, _ => none
  | _ => none

def lowSurrogate : Reader Nat
  | '\\' :: 'u' :: cs =>
    match hex4 cs with
    | some x =>
      if 0xDC00 ≤ x.value ∧ x.value ≤ 0xDFFF then
        some (x.widen (by simp only [List.length_cons]; omega))
      else none
    | none => none
  | _ => none

def ofSurrogates (high low : Nat) : Char :=
  Char.ofNat ((high - 0xD800) * 0x400 + (low - 0xDC00) + 0x10000)

def unicodeEscape : Reader Char := fun cs =>
  match hex4 cs with
  | none => none
  | some x =>
    if 0xD800 ≤ x.value ∧ x.value ≤ 0xDBFF then
      match lowSurrogate x.rest with
      | some y =>
        some ((y.map (ofSurrogates x.value)).widen (Nat.le_of_lt x.shorter))
      | none => none
    else if 0xDC00 ≤ x.value ∧ x.value ≤ 0xDFFF then none
    else some (x.map Char.ofNat)

def shortEscape? : Char → Option Char
  | '"' => some '"'
  | '\\' => some '\\'
  | '/' => some '/'
  | 'b' => some '\x08'
  | 'f' => some '\x0c'
  | 'n' => some '\n'
  | 'r' => some '\r'
  | 't' => some '\t'
  | _ => none

/-- An escape after its backslash. `unicode` reads what follows a `\u`. -/
def escapeWith (unicode : Reader Char) : Reader Char
  | [] => none
  | c :: cs =>
    if c = 'u' then (unicode cs).map (·.widen (Nat.le_succ _))
    else (shortEscape? c).map fun e => ⟨e, cs, Nat.lt_succ_self _⟩

/-- The rest of a string after its opening quote, up to and with the closing one. A control
character below U+0020 has to be escaped. -/
def stringWith (unicode : Reader Char) : Reader (List Char)
  | [] => none
  | c :: cs =>
    if c = '"' then some ⟨[], cs, by simp⟩
    else if c = '\\' then
      match escapeWith unicode cs with
      | none => none
      | some e =>
        match stringWith unicode e.rest with
        | none => none
        | some t =>
          some ⟨e.value :: t.value, t.rest, by
            have := e.shorter
            have := t.shorter
            simp only [List.length_cons]
            omega⟩
    else if c.toNat < 0x20 then none
    else
      match stringWith unicode cs with
      | none => none
      | some t =>
        some ⟨c :: t.value, t.rest, by
          have := t.shorter
          simp only [List.length_cons]
          omega⟩
termination_by cs => cs.length
decreasing_by
  · have := e.shorter
    simp only [List.length_cons]
    omega
  · simp

structure Literal where
  negative : Bool
  whole : List Char
  fraction : Option (List Char)
  exponent : Option Int

/-- Takes digits on to a significand for as long as it fits 64 bits, and leaves the others. -/
def fitDigits (significand : Nat) : List Char → Nat × List Char
  | [] => (significand, [])
  | d :: ds =>
    let s := significand * 10 + Decimal.digitValue d
    if s < UInt64.size then fitDigits s ds else (significand, d :: ds)

namespace Literal

/-- The binary64 number of a literal. The digits that do not fit the significand only count for
the power of ten, in front of the point, or not at all, behind it. -/
def double? (l : Literal) : Option Json :=
  let (s, left) := fitDigits 0 l.whole
  let fraction := l.fraction.getD []
  let (s, unused) := fitDigits s fraction
  let k : Int := (left.length : Int) - (fraction.length - unused.length : Nat) + l.exponent.getD 0
  (Decimal.Magnitude.ofScientific s k).map fun m => .double ⟨l.negative, m⟩

/-- The value of a literal: an integer if it is written as one and has 64 bits, signed or not, and
otherwise a double. Zero with a minus sign is a double. -/
def value? (l : Literal) : Option Json :=
  let n := Decimal.value l.whole
  match l.fraction, l.exponent with
  | none, none =>
    if l.negative then
      if 0 < n ∧ Int64.minValue.toInt ≤ -(n : Int) then some (.int (-(n : Int))) else l.double?
    else if n < UInt64.size then some (.int n)
    else l.double?
  | _, _ => l.double?

end Literal

def cut (p : Char → Bool) (cs : List Char) : List Char × Option (List Char) :=
  (cs.takeWhile (fun c => !p c), (cs.dropWhile (fun c => !p c)).tail?)

def areDigits (cs : List Char) : Bool := !cs.isEmpty && cs.all Decimal.isDigit

/-- One or more digits, of which the first is a zero only when it is the last too. -/
def isWhole (cs : List Char) : Bool := areDigits cs && (cs.head? != some '0' || cs.length == 1)

def exponent? (cs : List Char) : Option Int :=
  match cs with
  | '+' :: ds => if areDigits ds then some (Decimal.value ds : Int) else none
  | '-' :: ds => if areDigits ds then some (-(Decimal.value ds : Int)) else none
  | ds => if areDigits ds then some (Decimal.value ds : Int) else none

def literal? (cs : List Char) : Option Literal :=
  let negative := cs.head? = some '-'
  let (mantissa, exponent) := cut (fun c => c = 'e' || c = 'E') (if negative then cs.drop 1 else cs)
  let (whole, fraction) := cut (· = '.') mantissa
  if isWhole whole && fraction.all areDigits then
    match exponent with
    | none => some ⟨negative, whole, fraction, none⟩
    | some e => (exponent? e).map fun k => ⟨negative, whole, fraction, some k⟩
  else none

/-- The characters of numbers. None of them can follow a number, so a number takes all there are. -/
def isNumberChar (c : Char) : Bool :=
  Decimal.isDigit c || c = '-' || c = '+' || c = '.' || c = 'e' || c = 'E'

def numberWith (value? : Literal → Option Json) : Reader Json
  | [] => none
  | c :: cs =>
    if isNumberChar c then
      (literal? (c :: cs.takeWhile isNumberChar)).bind fun l =>
        (value? l).map fun v => ⟨v, cs.dropWhile isNumberChar, by
          have := (List.dropWhile_sublist isNumberChar (l := cs)).length_le
          simp only [List.length_cons]
          omega⟩
    else none

structure Leaves where
  text : Reader (List Char)
  number : Reader Json

def strict : Leaves := ⟨stringWith unicodeEscape, numberWith Literal.value?⟩

/-- Strings and numbers are read for their form alone: a number may be of any size and an escape
may name half a surrogate pair. -/
def formal : Leaves :=
  ⟨stringWith fun cs => (hex4 cs).map (·.map fun _ => '\uFFFD'), numberWith fun _ => some .null⟩

def word (text : List Char) (v : Json) : Reader Json := fun cs =>
  if h : text.isPrefixOf cs ∧ text ≠ [] then
    some ⟨v, cs.drop text.length, by
      obtain ⟨t, rfl⟩ := List.isPrefixOf_iff_prefix.1 h.1
      have : 0 < text.length := List.length_pos_iff.2 h.2
      simp only [List.drop_left, List.length_append]
      omega⟩
  else none

def atom (leaves : Leaves) : Reader Json
  | [] => none
  | c :: cs =>
    if c = '"' then
      (leaves.text cs).map fun t => (t.map fun x => Json.str (String.ofList x)).widen (by simp)
    else if c = 'n' then word ['n', 'u', 'l', 'l'] .null (c :: cs)
    else if c = 't' then word ['t', 'r', 'u', 'e'] (.bool true) (c :: cs)
    else if c = 'f' then word ['f', 'a', 'l', 's', 'e'] (.bool false) (c :: cs)
    else leaves.number (c :: cs)

/-- One or more items with commas between them, up to and with the closing bracket. -/
def itemsUntil {α : Type} (item : Reader α) (close : Char) : Reader (List α) := fun cs =>
  match item cs with
  | none => none
  | some x =>
    match next x.rest with
    | none => none
    | some sep =>
      if sep.value = close then
        some ⟨[x.value], sep.rest, Nat.lt_trans sep.shorter x.shorter⟩
      else if sep.value = ',' then
        match itemsUntil item close sep.rest with
        | none => none
        | some xs =>
          some ⟨x.value :: xs.value, xs.rest,
            Nat.lt_trans xs.shorter (Nat.lt_trans sep.shorter x.shorter)⟩
      else none
termination_by cs => cs.length
decreasing_by exact Nat.lt_trans sep.shorter x.shorter

def bracketed {α : Type} (item : Reader α) (close : Char) : Reader (List α) := fun cs =>
  match next cs with
  | none => none
  | some c => if c.value = close then some ⟨[], c.rest, c.shorter⟩ else itemsUntil item close cs

def key (leaves : Leaves) : Reader String := fun cs =>
  match next cs with
  | none => none
  | some q =>
    if q.value = '"' then
      match leaves.text q.rest with
      | none => none
      | some k =>
        match next k.rest with
        | none => none
        | some colon =>
          if colon.value = ':' then
            some ⟨String.ofList k.value, colon.rest,
              Nat.lt_trans colon.shorter (Nat.lt_trans k.shorter q.shorter)⟩
          else none
    else none

def keyed {α : Type} (leaves : Leaves) (item : String → Reader α) : Reader α := fun cs =>
  match key leaves cs with
  | none => none
  | some k => (item k.value k.rest).map (·.widen (Nat.le_of_lt k.shorter))

def member (leaves : Leaves) (item : Reader Json) : Reader (String × Json) :=
  keyed leaves fun k cs => (item cs).map (·.map fun v => (k, v))

/-- A value with at most `depth` arrays and objects inside one another. -/
def valueWith (leaves : Leaves) : Nat → Reader Json
  | 0 => fun cs =>
    match skipSpaces cs, length_skipSpaces_le cs with
    | [], _ => none
    | c :: rest, h =>
      if c = '[' || c = '\x7b' then none else (atom leaves (c :: rest)).map (·.widen h)
  | depth + 1 => fun cs =>
    match skipSpaces cs, length_skipSpaces_le cs with
    | [], _ => none
    | c :: rest, h =>
      if c = '[' then
        (bracketed (valueWith leaves depth) ']' rest).map fun items =>
          (items.map Json.arr).widen (by simp only [List.length_cons] at h; omega)
      else if c = '\x7b' then
        (bracketed (member leaves (valueWith leaves depth)) '\x7d' rest).map fun members =>
          (members.map Json.ofMembers).widen (by simp only [List.length_cons] at h; omega)
      else (atom leaves (c :: rest)).map (·.widen h)

def depthLimit : Nat := 127

def parse? (s : String) : Option Json :=
  (valueWith strict depthLimit s.toList).bind fun x =>
    if (skipSpaces x.rest).isEmpty then some x.value else none

end RemoteNotebook.Json

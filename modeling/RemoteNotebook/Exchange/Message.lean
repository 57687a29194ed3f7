import RemoteNotebook.Exchange
import RemoteNotebook.Text.Casing
import RemoteNotebook.Text.Lines

/-!
The bytes of an exchange. A request is written so that the database closes the connection after its
answer, and an answer is read from all the bytes up to there.
-/

namespace RemoteNotebook.Exchange

def fieldLine (field : String × String) : String := field.1 ++ ": " ++ field.2 ++ "\r\n"

/-- The bytes of a request to a host. Without a body no length is stated. -/
def Request.bytes (r : Request) (host : String) : List UInt8 :=
  let body := Text.Utf8.encode r.body.toList
  let length := if body.isEmpty then [] else [("content-length", Decimal.nat body.length)]
  let fields := r.fields ++ [("host", host)] ++ length ++ [("connection", "close")]
  let head := r.method ++ " " ++ r.target ++ " HTTP/1.1\r\n" ++
    String.join (fields.map fieldLine) ++ "\r\n"
  Text.Utf8.encode head.toList ++ body

def Trip.bytes (t : Trip) : List UInt8 := t.request.bytes t.address.hostAndPort

/-- A line without the carriage return and line feed at its end, byte by byte a character. -/
def lineChars (line : List UInt8) : List Char :=
  Text.chomp (line.map fun b => Char.ofNat b.toNat)

def splitHead (bs : List UInt8) : Option (List (List Char) × List UInt8) :=
  if _h : bs = [] then none
  else
    let line := lineChars (Text.splitLine bs).1
    if line.isEmpty then some ([], (Text.splitLine bs).2)
    else (splitHead (Text.splitLine bs).2).map fun (lines, rest) => (line :: lines, rest)
termination_by bs.length
decreasing_by exact Text.splitLine_rest_lt _h

def status? (line : List Char) : Option Nat :=
  match (String.ofList line).splitOn " " with
  | version :: code :: _ =>
    if "HTTP/1.".toList.isPrefixOf version.toList && code.length = 3 then
      Decimal.nat? code.toList
    else none
  | _ => none

def unpadded (cs : List Char) : List Char :=
  let isPadding (c : Char) : Bool := c = ' ' || c = '\t'
  ((cs.dropWhile isPadding).reverse.dropWhile isPadding).reverse

def fieldValue? (name : String) (line : List Char) : Option (List Char) :=
  if Text.lowercase (String.ofList (line.takeWhile (· != ':'))) = name then
    some (unpadded ((line.dropWhile (· != ':')).drop 1))
  else none

def location? (fields : List (List Char)) : Option (List UInt8) :=
  (fields.findSome? (fieldValue? "location")).map (·.map fun c => UInt8.ofNat c.toNat)

def chunkLength (line : List Char) : Nat :=
  Text.ofHex (String.ofList (line.takeWhile fun c => (Text.hexValue? c).isSome))

/-- The content of chunks, each behind a line with its length. A chunk of no length is the last. -/
def joinChunks (bs : List UInt8) : Option (List UInt8) :=
  if _h : bs = [] then none
  else
    let n := chunkLength (lineChars (Text.splitLine bs).1)
    let rest := (Text.splitLine bs).2
    if n = 0 then some []
    else if rest.length < n then none
    else (joinChunks ((rest.drop n).drop 2)).map (rest.take n ++ ·)
termination_by bs.length
decreasing_by
  have := Text.splitLine_rest_lt _h
  simp only [List.length_drop]
  omega

def body? (fields : List (List Char)) (rest : List UInt8) : Option (List UInt8) :=
  match fields.findSome? (fieldValue? "transfer-encoding") with
  | some coding =>
    if Text.lowercase (String.ofList coding) = "chunked" then joinChunks rest else none
  | none =>
    match fields.findSome? (fieldValue? "content-length") with
    | some length =>
      (Decimal.nat? length).bind fun n =>
        if rest.length < n then none else some (rest.take n)
    | none => some rest

theorem splitHead_rest_lt {bs rest : List UInt8} {lines : List (List Char)}
    (h : splitHead bs = some (lines, rest)) : rest.length < bs.length := by
  rw [splitHead] at h
  split at h
  · simp at h
  · next hne =>
    have hlt := Text.splitLine_rest_lt hne
    dsimp only at h
    split at h
    · cases h
      exact hlt
    · rw [Option.map_eq_some_iff] at h
      obtain ⟨⟨ls, r⟩, hr, he⟩ := h
      cases he
      exact Nat.lt_trans (splitHead_rest_lt hr) hlt
termination_by bs.length

/-- What the bytes of a connection answer. Interim answers are passed over. Bytes that end before
the fields do are a connection that was closed too early, and a body that is cut short is empty,
which is no JSON either. -/
def Answer.ofBytes (bs : List UInt8) : Answer :=
  match _h : splitHead bs with
  | some (first :: fields, rest) =>
    match status? first with
    | none => .dropped
    | some status =>
      if 100 ≤ status ∧ status < 200 ∧ status ≠ 101 then ofBytes rest
      else
        let body := if carriesBody status then (body? fields rest).getD [] else []
        .answered status body (location? fields)
  | _ => .dropped
termination_by bs.length
decreasing_by exact splitHead_rest_lt _h

end RemoteNotebook.Exchange

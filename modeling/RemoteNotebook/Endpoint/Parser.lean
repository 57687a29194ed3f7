import RemoteNotebook.Endpoint.Address

/-!
Reading an address. Control characters and spaces around it, and tabs and line ends anywhere in it,
are left out. The schemes of the web have a host, may be written with other slashes, and leave out
the port that is theirs by default; files have a host that may be empty; any other scheme may have
a path without structure.
-/

namespace RemoteNotebook.Endpoint

inductive SchemeKind where
  | web
  | file
  | other
  deriving DecidableEq, Repr

def schemeKind (scheme : String) : SchemeKind :=
  if scheme = "file" then .file
  else if ["http", "https", "ws", "wss", "ftp"].contains scheme then .web
  else .other

/-- Whether backslashes count as slashes and hosts are domain names. -/
def SchemeKind.isSpecial : SchemeKind → Bool
  | other => false
  | _ => true

def defaultPort? (scheme : String) : Option Nat :=
  if scheme = "http" ∨ scheme = "ws" then some 80
  else if scheme = "https" ∨ scheme = "wss" then some 443
  else if scheme = "ftp" then some 21
  else none

def knownPort? (e : Endpoint) : Option Nat := e.port.or (defaultPort? e.scheme)

def trimmed (cs : List Char) : List Char :=
  let isOuter (c : Char) : Bool := c.toNat ≤ 0x20
  ((cs.dropWhile isOuter).reverse.dropWhile isOuter).reverse

def isBreak (c : Char) : Bool := c = '\t' || c = '\n' || c = '\r'

def withoutBreaks (cs : List Char) : List Char := cs.filter (!isBreak ·)

/-- The scheme in lower case, and what is behind its colon, with its breaks. -/
def splitScheme (cs : List Char) : Option (String × List Char) :=
  let isSchemeChar (c : Char) : Bool := c.isAlphanum || c = '+' || c = '-' || c = '.'
  match cs.span (· ≠ ':') with
  | (before, _ :: rest) =>
    let scheme := withoutBreaks before
    if scheme.head?.any Char.isAlpha && scheme.all isSchemeChar then
      some (String.ofList (scheme.map Char.toLower), rest)
    else none
  | _ => none

def isSlash (kind : SchemeKind) (c : Char) : Bool := c = '/' || (kind.isSpecial && c = '\\')

def isDot (part : List Char) : Bool :=
  [".", "%2e"].contains (String.ofList (part.map Char.toLower))

def isDoubleDot (part : List Char) : Bool :=
  ["..", ".%2e", "%2e.", "%2e%2e"].contains (String.ofList (part.map Char.toLower))

def isDrive : List Char → Bool
  | [a, b] => a.isAlpha && (b = ':' || b = '|')
  | _ => false

/-- Whether the part of a path begins with a drive: a backslash ends it as well. -/
def beginsWithDrive (part : List Char) : Bool := isDrive (part.takeWhile (· ≠ '\\'))

/-- The path without its last part. Drives are kept. -/
def shorten (parts : List String) : List String :=
  if parts.getLast?.any (beginsWithDrive ·.toList) then parts else parts.dropLast

/-- A drive and the text behind it, if breaks stand between them. -/
def splitDrive? (part : List Char) : Option (List Char × List Char) :=
  match part.span (· ≠ ':') with
  | (before, colon :: c :: after) =>
    let drive := withoutBreaks before ++ [colon]
    let rest := withoutBreaks after
    if isDrive drive && isBreak c && !rest.isEmpty then some (drive, rest) else none
  | _ => none

/-- Adds the first part of a file to its path. The drive of a file is written with a colon. Breaks
end a drive too, but then it is no longer the first part: an empty one, which is left out in the
end, stands before it. -/
def addFirst (part : List Char) : List String :=
  let written (cs : List Char) : String := Percent.encode Percent.inPath cs
  match splitDrive? part with
  | some (drive, rest) => ["", written drive, written rest]
  | none =>
    let part := withoutBreaks part
    [if isDrive part then String.ofList (part.take 1 ++ [':']) else written part]

/-- Adds the parts of a path to those before them. Dots move in the path, and at its end they leave
an empty part behind. -/
def addParts (kind : SchemeKind) (path : List String) : List (List Char) → List String
  | [] => path
  | part :: parts =>
    let text := withoutBreaks part
    let atEnd (p : List String) : List String := if parts.isEmpty then p ++ [""] else p
    if isDoubleDot text then addParts kind (atEnd (shorten path)) parts
    else if isDot text then addParts kind (atEnd path) parts
    else if kind = .file && path.isEmpty then addParts kind (addFirst part) parts
    else addParts kind (path ++ [Percent.encode Percent.inPath text]) parts

/-- The path of a file begins with one slash only. -/
def dropEmptyParts (parts : List String) : List String :=
  match parts.dropWhile (·.isEmpty) with
  | [] => [""]
  | rest => rest

def partsOf (kind : SchemeKind) (cs : List Char) : List String :=
  addParts kind [] (Domain.splitAll (isSlash kind) cs)

def isPathEnd (c : Char) : Bool := c = '?' || c = '#'

def queryOf (kind : SchemeKind) (cs : List Char) : Option String :=
  let inSet := if kind.isSpecial then Percent.inSpecialQuery else Percent.inQuery
  match cs with
  | '?' :: rest => some (Percent.encode inSet (rest.takeWhile (· ≠ '#')))
  | _ => none

def fragmentOf (cs : List Char) : Option String :=
  match cs.dropWhile (· ≠ '#') with
  | _ :: rest => some (Percent.encode Percent.inFragment rest)
  | [] => none

def withTail (e : Endpoint) (kind : SchemeKind) (tail : List Char) : Endpoint :=
  { e with query := queryOf kind tail, fragment := fragmentOf tail }

def splitAuthority (kind : SchemeKind) (cs : List Char) : List Char × List Char :=
  cs.span fun c => !(isSlash kind c || isPathEnd c)

def splitUserinfo (cs : List Char) : Option (List Char) × List Char :=
  let host := (cs.reverse.takeWhile (· ≠ '@')).reverse
  if host.length < cs.length then (some (cs.take (cs.length - host.length - 1)), host)
  else (none, cs)

/-- The text of a host and what is behind it: a colon outside of brackets ends a host. -/
def splitHost (inBrackets : Bool) : List Char → List Char × List Char
  | [] => ([], [])
  | c :: cs =>
    if c = ':' && !inBrackets then ([], c :: cs)
    else
      let rest := splitHost (if c = '[' then true else if c = ']' then false else inBrackets) cs
      (c :: rest.1, rest.2)

/-- A port after its colon, none if it has no digits or is the default one. -/
def portOf (scheme : String) (cs : List Char) : Except Fault (Option Nat) :=
  if !cs.all Decimal.isDigit ∨ 65535 < Decimal.value cs then .error .port
  else if cs.isEmpty ∨ defaultPort? scheme = some (Decimal.value cs) then .ok none
  else .ok (some (Decimal.value cs))

def pathAfter (kind : SchemeKind) (cs : List Char) : Path :=
  let path := cs.takeWhile (!isPathEnd ·)
  match path with
  | [] => if kind.isSpecial then .segments [""] else .segments []
  | c :: rest => .segments (partsOf kind (if isSlash kind c then rest else path))

/-- Reads what is behind the two slashes of an authority. A backslash ends a port for every
scheme. -/
def parseAuthority (scheme : String) (kind : SchemeKind) (cs : List Char) :
    Except Fault Endpoint := do
  let (authority, rest) := splitAuthority kind cs
  let (userinfo, hostPort) := splitUserinfo authority
  if userinfo = some [] ∧ hostPort.isEmpty ∧ !rest.isEmpty then throw .emptyHost
  let (username, password) :=
    match (userinfo.getD []).span (· ≠ ':') with
    | (user, _ :: password) => (user, password)
    | (user, []) => (user, [])
  let (hostText, portText) := splitHost false hostPort
  if hostText.isEmpty ∧ kind.isSpecial then throw .emptyHost
  let host ← if kind.isSpecial then Host.parse hostText else Host.parseAny hostText
  if hostText.isEmpty ∧ !portText.isEmpty then throw .emptyHost
  let digits := (portText.drop 1).takeWhile (· ≠ '\\')
  let port ← portOf scheme digits
  if hostText.isEmpty ∧ !(username.isEmpty && password.isEmpty) then throw .emptyHost
  let path := (portText.drop 1).dropWhile (· ≠ '\\') ++ rest
  return withTail
    { scheme
      username := Percent.encode Percent.inUserinfo username
      password := Percent.encode Percent.inUserinfo password
      host := some host
      port
      path := pathAfter kind path }
    kind (path.dropWhile (!isPathEnd ·))

def thisMachine : Host := .name ""

def afterSlash? (cs : List Char) : Option (List Char) :=
  match cs.dropWhile isBreak with
  | c :: rest => if isSlash .file c then some rest else none
  | [] => none

/-- The host of a file behind its two slashes, and the path. A drive is no host, and only a host of
another machine has a slash of its own before the path. -/
def splitFileHost (cs : List Char) : Except Fault (Host × List Char) :=
  let (authority, rest) := splitAuthority .file cs
  let name := withoutBreaks authority
  if name.isEmpty then .ok (thisMachine, rest)
  else if isDrive name then .ok (thisMachine, cs)
  else
    (Host.parse name).map fun host =>
      if host = .name "localhost" then (thisMachine, rest) else (host, (afterSlash? rest).getD rest)

/-- Reads what is behind `file:`. A path that begins with a drive has no host. -/
def parseFile (cs : List Char) : Except Fault Endpoint := do
  let (host, text) ←
    match afterSlash? cs with
    | none => .ok (thisMachine, cs)
    | some rest => ((afterSlash? rest).map splitFileHost).getD (.ok (thisMachine, rest))
  let (path, tail) := text.span (!isPathEnd ·)
  let parts := partsOf .file path
  return withTail
    { scheme := "file"
      host := some (if parts.head?.any (isDrive ·.toList) then thisMachine else host)
      path := .segments (dropEmptyParts parts) }
    .file (withoutBreaks tail)

def parsePlain (scheme : String) (cs : List Char) : Endpoint :=
  let path := cs.takeWhile (!isPathEnd ·)
  withTail
    { scheme
      path := match path with
        | '/' :: rest => .segments (partsOf .other rest)
        | _ => .plain (Percent.encode Percent.inControls path) }
    .other (cs.dropWhile (!isPathEnd ·))

def parse (s : String) : Except Fault Endpoint :=
  match splitScheme (trimmed s.toList) with
  | none => .error .relative
  | some (scheme, rest) =>
    let text := withoutBreaks rest
    match schemeKind scheme with
    | .file => parseFile rest
    | .web => parseAuthority scheme .web (text.dropWhile (isSlash .web))
    | .other =>
      match text with
      | '/' :: '/' :: text => parseAuthority scheme .other text
      | _ => .ok (parsePlain scheme text)

end RemoteNotebook.Endpoint

import RemoteNotebook.Endpoint.Parser

/-!
References: addresses that are read from another one on, from which they take what they leave out.
The other one is an address of the web.
-/

namespace RemoteNotebook.Endpoint

def Path.parts : Path → List String
  | .segments parts => parts
  | .plain _ => []

/-- Reads a reference without a scheme. An empty path keeps that of the base, and with it the query
if there is none in the reference. -/
def parseRelative (base : Endpoint) (cs : List Char) : Except Fault Endpoint :=
  let path := cs.takeWhile (!isPathEnd ·)
  let tail := cs.dropWhile (!isPathEnd ·)
  let withPath (parts : List String) : Endpoint :=
    withTail { base with path := .segments parts } .web tail
  match path.span (isSlash .web) with
  | ([], []) => .ok { withTail base .web tail with query := (queryOf .web tail).or base.query }
  | ([], _) =>
    .ok (withPath (addParts .web base.path.parts.dropLast (Domain.splitAll (isSlash .web) path)))
  | ([_], rest) => .ok (withPath (partsOf .web rest))
  | (_, _) => parseAuthority base.scheme .web (cs.dropWhile (isSlash .web))

/-- Reads a reference. The scheme of the base may stand in front of it without two slashes. -/
def join (base : Endpoint) (reference : String) : Except Fault Endpoint :=
  match splitScheme (trimmed reference.toList) with
  | none => parseRelative base (withoutBreaks (trimmed reference.toList))
  | some (scheme, rest) =>
    let text := withoutBreaks rest
    if scheme = base.scheme ∧ (text.takeWhile (isSlash .web)).length < 2 then
      parseRelative base text
    else parse reference

end RemoteNotebook.Endpoint

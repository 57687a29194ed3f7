import RemoteNotebook.Endpoint.Host

/-!
Addresses of a database: their parts and the one text that each is written in.
-/

namespace RemoteNotebook

inductive Endpoint.Path where
  /-- Segments with slashes before them. -/
  | segments (parts : List String)
  /-- A text without structure. -/
  | plain (text : String)
  deriving DecidableEq, Repr

structure Endpoint where
  scheme : String
  username : String := ""
  password : String := ""
  host : Option Endpoint.Host := none
  port : Option Nat := none
  path : Endpoint.Path
  query : Option String := none
  fragment : Option String := none
  deriving DecidableEq, Repr

namespace Endpoint

def Path.text : Path → String
  | segments parts => String.join (parts.map ("/" ++ ·))
  | plain text => text

/-- The user and password, which a host has in front of it. -/
def credentials (e : Endpoint) : String :=
  if e.username.isEmpty && e.password.isEmpty then ""
  else e.username ++ (if e.password.isEmpty then "" else ":" ++ e.password) ++ "@"

def hostAndPort (e : Endpoint) : String :=
  (e.host.map Host.text).getD "" ++ (e.port.map (":" ++ Decimal.nat ·)).getD ""

/-- What stands between scheme and path. Without a host, a path that begins with two slashes needs a
dot in front of it, or it would be read as a host. -/
def authority (e : Endpoint) : String :=
  match e.host with
  | some _ => "//" ++ e.credentials ++ e.hostAndPort
  | none =>
    match e.path with
    | .segments ("" :: _ :: _) => "/."
    | _ => ""

def withoutUser (e : Endpoint) : Endpoint := { e with username := "", password := "" }

def target (e : Endpoint) : String := e.path.text ++ (e.query.map ("?" ++ ·)).getD ""

def text (e : Endpoint) : String :=
  e.scheme ++ ":" ++ e.authority ++ e.target ++ (e.fragment.map ("#" ++ ·)).getD ""

end Endpoint
end RemoteNotebook

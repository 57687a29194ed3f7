import RemoteNotebook.Endpoint.Reference
import RemoteNotebook.Text.Base64
import RemoteNotebook.Wire

/-!
Requests: what is sent for a query, and where. One can be written only for an http or https address
with a host. The user and password of an endpoint are no part of that address; a field of the
request tells them.
-/

namespace RemoteNotebook.Exchange

def maxAddressSize : Nat := 65534

/-- Characters that names of hosts may have, but not those of requests. -/
def isUnwritable (c : Char) : Bool := "\"%`\x7b\x7d".toList.contains c

def isHttp (address : Endpoint) : Bool := ["http", "https"].contains address.scheme

def isAddress (address : Endpoint) : Bool :=
  address.host.any (fun host => !host.text.isEmpty && !host.text.toList.any isUnwritable) &&
    address.text.utf8ByteSize ≤ maxAddressSize

def plainText? (encoded : String) : Option String :=
  (Text.Utf8.decode (Endpoint.Percent.decode encoded.toList)).map String.ofList

/-- The user and password that an endpoint names. A user whose name is no text is not told, and
neither is a password that is none. -/
def login? (endpoint : Endpoint) : Option String :=
  (plainText? endpoint.username).bind fun user =>
    let password := if endpoint.password.isEmpty then none else plainText? endpoint.password
    if user.isEmpty && password.isNone then none else some (user ++ ":" ++ password.getD "")

def addressOf (endpoint : Endpoint) : Endpoint :=
  if (login? endpoint).isSome then endpoint.withoutUser else endpoint

/-- Whether a request can be written for an endpoint. -/
def isWritable (endpoint : Endpoint) : Bool := isHttp endpoint && isAddress (addressOf endpoint)

structure Request where
  method : String
  target : String
  /-- Names in lower case with their values. -/
  fields : List (String × String)
  body : String
  deriving DecidableEq, Repr

namespace Request

def contentType (r : Request) : String := (r.fields.lookup "content-type").getD ""

def without (name : String) (r : Request) : Request :=
  { r with fields := r.fields.filter (·.1 != name) }

def withField (name value : String) (r : Request) : Request :=
  { r with fields := (r.without name).fields ++ [(name, value)] }

/-- The request after an answer with this status that names another address. Some statuses want
what is there to be got, and others the same request once more. -/
def again? (r : Request) (status : Nat) : Option Request :=
  if [301, 302, 303].contains status then
    some { r.without "content-type" with method := "GET", body := "" }
  else if [307, 308].contains status then some r
  else none

/-- The user is not told to another host or port. -/
def keptFor (r : Request) (here there : Endpoint) : Request :=
  if here.host = there.host ∧ here.knownPort? = there.knownPort? then r
  else r.without "authorization"

/-- What has been asked for in secret is not told in public. -/
def referredFrom (r : Request) (here there : Endpoint) : Request :=
  if here.scheme = "https" ∧ there.scheme = "http" then r
  else r.withField "referer" { here.withoutUser with fragment := none }.text

/-- A request on its way from one address to another. -/
def moved (r : Request) (here there : Endpoint) : Request :=
  { (r.keptFor here there).referredFrom here there with target := there.target }

end Request

def authorization (login : String) : String :=
  "Basic " ++ String.ofList (Text.Base64.encode (Text.Utf8.encode login.toList))

def request (endpoint : Endpoint) (sql : String) : Request where
  method := "POST"
  target := endpoint.target
  fields := ((login? endpoint).map fun login => ("authorization", authorization login)).toList ++
    [("content-type", "application/json"), ("accept", "*/*")]
  body := Wire.encodeQuery sql

end RemoteNotebook.Exchange

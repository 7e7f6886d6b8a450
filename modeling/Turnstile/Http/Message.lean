import Turnstile.Failure
import Turnstile.Json.Writer
import Turnstile.Text.Blank
import Turnstile.Text.Cut
import Turnstile.Text.LowerCase
import Turnstile.Text.Percent

set_option autoImplicit false

/-! # Requests and responses

What a client asks and what it is told. Names of headers are compared in lower case, and of several
headers of one name the first counts. -/

namespace Turnstile

/-! ## Requests -/

/-- A request. `host` is the service's own host and `client` the one that the connection comes from,
    where that is known. A request without a body has one that is empty, which is no JSON. -/
structure Request where
  method : String := "GET"
  host : String
  path : String
  query : String := ""
  headers : List (String × String) := []
  client : Option String := none
  body : Option Json := none
deriving Repr

namespace Request

/-- The value of the first header of a name in lower case. -/
def header? (r : Request) (name : String) : Option String :=
  (r.headers.find? fun h => lowerCase h.1 = name).map (·.2)

/-- Whom a request counts for: the host it comes from, or else the first of those that it says it
    was forwarded for. -/
def subject (r : Request) : String :=
  match r.client with
  | some host => host
  | none =>
    let forwarded := (r.header? "x-forwarded-for").getD "unknown"
    String.ofList (trimBy isBlankOrSeparator (cutAt ',' forwarded.toList).1)

/-- The secret and the hash that the body gives; a field that it lacks is `null`. -/
def credentials (r : Request) : Except Failure (Json × Json) :=
  match r.body with
  | none => .error (.unreadable .malformed)
  | some (.object members) =>
    let field (name : String) := (members.lookup name).getD .null
    .ok (field "secret", field "hashed")
  | some _ => .error .wrongShape

end Request

/-! ## Paths in addresses -/

/-- A character stands for itself in the path of an address: it neither ends the path nor passes for
    a slash. -/
def isPathChar (c : Char) : Bool := c ≠ '?' && c ≠ '#' && c ≠ '\\'

/-- A path as the path of an address, which starts with a slash unless it is empty. -/
def addressForm (path : List Char) : List Char :=
  match path with
  | [] => []
  | c :: _ => percentEncode isPathChar (if c = '/' then path else '/' :: path)

/-- The path of the request's address, of which tabs and line breaks are no part. -/
def Request.addressPath (r : Request) : String :=
  String.ofList ((addressForm r.path.toList).filter fun c => c ≠ '\t' ∧ c ≠ '\r' ∧ c ≠ '\n')

/-! ## Responses -/

/-- A response. -/
structure Response where
  status : Nat
  body : String := ""
  headers : List (String × String) := []
deriving DecidableEq, Repr

namespace Response

/-- A response with a text of some type. -/
def text (status : Nat) (type body : String) : Response :=
  { status, body, headers := [("content-type", type)] }

/-- A response with a JSON body. -/
def json (status : Nat) (body : Json) : Response :=
  text status "application/json" (body.write .compact)

/-- A response that says why there is no other. -/
def detail (status : Nat) (reason : String) : Response :=
  json status (.object [("detail", .text reason)])

/-- A response with one more header. -/
def withHeader (r : Response) (name value : String) : Response :=
  { r with headers := r.headers ++ [(name, value)] }

end Response

end Turnstile

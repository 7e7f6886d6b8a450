import Turnstile.Http.Message
import Turnstile.Text.Percent

set_option autoImplicit false

/-! # Routes

What a path leads to. Each route answers to one method; a path that would be a route's without the
slashes at its end is sent there. -/

namespace Turnstile

/-- What the service offers. -/
inductive Route where
  | health
  | ready
  | metrics
  | enter (world : String)
deriving DecidableEq, Repr

namespace Route

/-- The only method of a route. -/
def method : Route → String
  | .health | .ready | .metrics => "GET"
  | .enter _ => "POST"

/-- The world of a path of the form `/worlds/…/enter`, a single segment that is not empty. -/
def worldOf? (cs : List Char) : Option (List Char) :=
  let start := "/worlds/".toList
  if start.isPrefixOf cs then
    let rest := cs.drop start.length
    let world := rest.takeWhile (· ≠ '/')
    if world ≠ [] ∧ rest.drop world.length = "/enter".toList then some world else none
  else none

/-- The route of a path. A line feed at the end does not count. -/
def ofPath? (path : List Char) : Option Route :=
  let cs := if path.getLast? = some '\n' then path.dropLast else path
  if cs = "/health".toList then some .health
  else if cs = "/ready".toList then some .ready
  else if cs = "/metrics".toList then some .metrics
  else (worldOf? cs).map fun world => .enter (String.ofList world)

end Route

/-- Where a request is led. -/
inductive Destination where
  | route (r : Route)
  | wrongMethod (allowed : String)
  /-- To the path without the slashes at its end. -/
  | moved (path : List Char)
  | nowhere
deriving DecidableEq, Repr

namespace Destination

/-- A path without the slashes at its end. -/
def withoutSlashes (path : List Char) : List Char :=
  (path.reverse.dropWhile (· = '/')).reverse

/-- Where a request of a method and a path is led. -/
def of (method : String) (path : List Char) : Destination :=
  match Route.ofPath? path with
  | some r => if method = r.method then .route r else .wrongMethod r.method
  | none =>
    let shorter := withoutSlashes path
    if shorter ≠ path ∧ (Route.ofPath? shorter).isSome then .moved shorter else .nowhere

end Destination

/-! ## Addresses in responses -/

/-- The characters that stand for themselves in an address. -/
def isAddressChar (c : Char) : Bool :=
  c.isAlphanum || "_.-~:/%#?=@[]!$&'()*+,;".contains c

/-- The address of another path for a request. -/
def Request.addressOf (r : Request) (path : List Char) : String :=
  let query := if r.query = "" then [] else '?' :: r.query.toList
  let address := "http://".toList ++ r.host.toList ++ addressForm path ++ query
  String.ofList (percentEncode isAddressChar address)

end Turnstile

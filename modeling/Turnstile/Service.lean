import Turnstile.Guard
import Turnstile.Http.Route
import Turnstile.Session
import Turnstile.Settings

set_option autoImplicit false

/-! # The service

The guard behind HTTP. Each request has an id of its own, and each response is counted, logged and
sent with that id. A failure that no handler stops is answered with a plain internal error, which is
neither counted nor logged; one that comes up when the service stops is that of the whole run. -/

namespace Turnstile

/-! ## Request ids -/

/-- A token's digits in groups of 8, 4, 4, 4 and 12. -/
def groupedToken (n : Nat) : String :=
  let cs := tokenDigits n
  let group (start size : Nat) := String.ofList ((cs.drop start).take size)
  "-".intercalate [group 0 8, group 8 4, group 12 4, group 16 4, group 20 12]

/-- The id of a request: the one it brings, unless that is empty, or else a fresh one. -/
def Request.id (r : Request) : Routine String :=
  match r.header? "x-request-id" with
  | none | some "" => do return groupedToken (← Routine.freshToken)
  | some id => return id

namespace Service

/-! ## Responses of the routes -/

/-- The process is up. -/
def healthy : Response := .json 200 (.object [("status", .text "ok")])

/-- The store answers, or it does not. -/
def readiness (answers : Bool) : Response :=
  let (code, status, store) :=
    if answers then (200, "ok", "ok") else (503, "degraded", "unreachable")
  .json code (.object [("status", .text status), ("checks", .object [("redis", .text store)])])

/-- The secret matches, or it does not. -/
def admission (matching : Bool) : Response :=
  if matching then .json 200 (.object [("ok", .bool true)]) else .detail 401 "Invalid secret"

/-- The subject is over its cap. Only the world's name leaves the service. -/
def refusal (f : Failure) : Response := .detail 429 (f.message?.getD "")

/-- The handling failed. -/
def internalError : Response := .text 500 "text/plain; charset=utf-8" "Internal Server Error"

/-- A subject over its cap. -/
def isRefusal : Failure → Bool
  | .rateLimited _ => true
  | _ => false

/-- Ask the guard whether a request may enter a world. -/
def enter (l : Limiter) (id world : String) (r : Request) : Routine Response := do
  let (plain, hashed) ← Routine.ofExcept r.credentials
  let check := admission <$> Guard.check l id world r.subject plain hashed
  check.catching isRefusal fun f => return refusal f

/-- The response of a route. -/
def serve (l : Limiter) (id : String) (r : Request) : Route → Routine Response
  | .health => return healthy
  | .ready => readiness <$> Cache.ping
  | .metrics => do
    let exposition ← Routine.exposition
    return .text 200 "text/plain; version=0.0.4; charset=utf-8" exposition
  | .enter world => enter l id world r

/-- The response to a request. A cancelled handling gives none. -/
def respond (l : Limiter) (id : String) (r : Request) : Routine Response :=
  match Destination.of r.method r.path.toList with
  | .route route => (serve l id r route).catching Failure.isCancellation fun _ => throw .noResponse
  | .wrongMethod allowed =>
    return (Response.detail 405 "Method Not Allowed").withHeader "allow" allowed
  | .moved path => return { status := 307, headers := [("location", r.addressOf path)] }
  | .nowhere => return .detail 404 "Not Found"

/-! ## Requests -/

/-- What a client is told, and the failure that no handler stopped, if there was one. -/
structure Reply where
  response : Response
  escaped : Option Failure := none

/-- Count and log a response, and put the request's id on it. -/
def finish (id : String) (r : Request) (response : Response) : Routine Reply := do
  let (method, path, status) := (r.method, r.addressPath, response.status)
  Routine.ask (.countRequest method path status)
  Routine.log .info .app s!"request_id={id} method={method} path={path} status={status}"
  return { response := response.withHeader "x-request-id" id }

/-- Handle a request. -/
def handle (l : Limiter) (r : Request) : Routine Reply := do
  -- The id is drawn even for a request that gets no response.
  let id ← r.id
  match ← Routine.observe (respond l id r) with
  | .ok response => finish id r response
  | .error f => return { response := internalError, escaped := some f }

/-! ## Runs -/

/-- A step in the life of a service. -/
inductive Step where
  | request (r : Request)
  | wait (ms : Int)
  | operate (operation : Operation)

/-- What a step comes to. -/
inductive Event where
  | started
  | nothing
  | replied (r : Reply)
  | failed (f : Failure)
  | stopped

/-- What a step does. -/
def step (l : Limiter) : Step → Routine Event
  | .request r => .replied <$> handle l r
  | .wait ms => do Routine.ask (.wait ms); return .nothing
  | .operate operation => do Routine.ask (.operate operation); return .nothing

/-- Run a routine as the only task and observe what came of it. -/
def observe (s : System) (r : Routine Event) : System × Observation Event :=
  match r.run.run 0 s with
  | (s, .ok event) => s.observe event
  | (s, .error f) => s.observe (.failed f)

/-- Connect to the store and tell how the limiter is configured. -/
def start (settings : Settings) (s : System) : System × Observation Event :=
  let (cap, window) := (settings.limiter.cap, settings.limiter.windowSeconds)
  observe (s.note 0 (.connect settings.storeAddress)) do
    Routine.log .info .app s!"shared secret limiter max_attempts={cap} window_seconds={window}"
    return .started

/-- Give up the connection to the store. A failure of that is one of the whole run. -/
def stop (s : System) : Except Failure (Observation Event) :=
  match Cache.close.run.run 0 s with
  | (s, .ok ()) => .ok (s.observe .stopped).2
  | (_, .error f) => .error f

/-- The observations of steps, up to that of stopping. -/
def observationsOf (l : Limiter) : System → List Step → Except Failure (List (Observation Event))
  | s, [] => do return [← stop s]
  | s, next :: rest => do
    let (s, observation) := observe s (step l next)
    return observation :: (← observationsOf l s rest)

/-- The observations of a run: of the start, of each step and of the stop. -/
def observations (settings : Settings) (s : System) (steps : List Step) :
    Except Failure (List (Observation Event)) := do
  let (s, observation) := start settings s
  return observation :: (← observationsOf ⟨settings.limiter, .system⟩ s steps)

end Service

end Turnstile

import Turnstile.Guard
import Turnstile.Proc.Schedule

set_option autoImplicit false

/-! # Sessions

A session drives several limiter instances on one store, step by step. Most steps are calls, which
run as a task alone or, in a parallel step, next to each other; the calls inside a lock run in the
task that holds it. After each step the session observes what came of it: the result, the trace and
the log since the step before, the live store and the outcome counters. -/

namespace Turnstile

/-- A call on the instance numbered `i`, on the cache or on the session itself. -/
inductive Call where
  | record (i : Nat) (world subject : String)
  | isLimited (i : Nat) (world subject : String)
  | clear (world subject : String)
  | check (i : Nat) (requestId world subject : String) (plain hashed : Json)
  | cacheGet (key : String)
  | cacheSet (key value : String) (ttlSeconds : Int)
  | cacheRemove (key : String)
  /-- Acquire a lock and keep its handle under a name. -/
  | acquire (name key : String) (options : LockOptions)
  | release (name : String)
  | expired (name : String)
  /-- Hold a lock, its handle kept under a name, for some calls and then a failure if there is one.
      -/
  | holding (name key : String) (options : LockOptions) (body : List Call)
      (failure : Option Failure)
  | ping
  | close
  | exposition
  | wait (ms : Int)
  | operate (operation : Operation)
deriving Inhabited

/-- What a call comes to. -/
inductive CallResult where
  | nothing
  | flag (b : Bool)
  | text (s : String)
  | handle (h : LockHandle)
  /-- There is no lock handle of the name. -/
  | noHandle
  /-- The results of the calls made while a lock was held. -/
  | held (token : String) (body : List CallResult)
  | failed (f : Failure)
  /-- The results of the calls of a parallel step. -/
  | several (results : List CallResult)
deriving Inhabited

namespace CallResult

/-- The result of a routine that has ended. -/
def ofExcept : Except Failure CallResult → CallResult
  | .ok r => r
  | .error f => .failed f

end CallResult

/-- The instances of a session, by their configurations. -/
structure Instances where
  configs : List LimiterConfig

/-- The limiter numbered `i`, which goes by a clock of its own. -/
def Instances.limiter (instances : Instances) (i : Nat) : Limiter :=
  ⟨instances.configs.getD i {}, .skewed i⟩

namespace Call

/-- Apply a function to the handle kept under a name, if there is one. -/
def withHandle (name : String) (f : LockHandle → Routine CallResult) : Routine CallResult := do
  match ← ExceptT.lift (Proc.ask (.handle name)) with
  | some handle => f handle
  | none => return .noHandle

mutual

/-- What a call does. -/
def routine (instances : Instances) : Call → Routine CallResult
  | .record i world subject => .flag <$> (instances.limiter i).recordFailure world subject
  | .isLimited i world subject => .flag <$> (instances.limiter i).isLimited world subject
  | .clear world subject => (fun _ => .nothing) <$> Limiter.clear world subject
  | .check i requestId world subject plain hashed =>
    .flag <$> Guard.check (instances.limiter i) requestId world subject plain hashed
  | .cacheGet key => do return .text ((← Cache.get key).write .stored)
  | .cacheSet key value ttl => do
    match Json.read value with
    | .ok v => Cache.set key v ttl; return .nothing
    | .error reason => throw (.unreadable reason)
  | .cacheRemove key => do Cache.remove key; return .nothing
  | .acquire name key options => do
    let handle ← Lock.acquire key options
    Routine.ask (.operate (.keepHandle name handle))
    return .handle handle
  | .release name => withHandle name fun handle => .flag <$> Lock.release handle
  | .expired name => withHandle name fun handle => .flag <$> Lock.expired handle
  | .holding name key options body failure =>
    Lock.holding key options fun handle => do
      Routine.ask (.operate (.keepHandle name handle))
      let results ← routines instances body
      match failure with
      | some f => throw f
      | none => return .held handle.token results
  | .ping => .flag <$> Cache.ping
  | .close => do Cache.close; return .nothing
  | .exposition => do return .text (← Routine.exposition)
  | .wait ms => do Routine.ask (.wait ms); return .nothing
  | .operate operation => do Routine.ask (.operate operation); return .nothing

/-- The results of calls made one after the other; a failure ends only its own call. -/
def routines (instances : Instances) : List Call → Routine (List CallResult)
  | [] => return []
  | call :: rest => do
    let result ← Routine.observe (routine instances call)
    return .ofExcept result :: (← routines instances rest)

end

end Call

/-- A step of a session: a call, or several at once, each after a delay. -/
inductive Step where
  | call (c : Call)
  | parallel (calls : List (Int × Call))

namespace Step

/-- What a step does to the system and comes to. -/
def run (instances : Instances) (s : System) : Step → System × CallResult
  | .call c =>
    let (s, result) := (c.routine instances).run.run 0 s
    (s, .ofExcept result)
  | .parallel calls =>
    -- A call that fails ends its own task only.
    let processes := calls.map fun (delay, c) => (delay, (c.routine instances).run)
    let schedule := (Schedule.start processes s).run
    (schedule.system, .several (schedule.results.map .ofExcept))

end Step

/-- What is observed after a step. -/
structure Observation (α : Type) where
  result : α
  elapsed : Int
  trace : List TraceEntry
  logs : List LogEntry
  store : List (String × Entry)
  outcomes : List (String × Nat)

/-- Observe a system after a step, and begin a new trace and log. -/
def System.observe {α : Type} (s : System) (result : α) : System × Observation α :=
  ({ s with trace := [], logs := [] },
    { result, elapsed := s.elapsed, trace := s.trace, logs := s.logs,
      store := s.store.live s.elapsed, outcomes := s.metrics.sortedOutcomes })

namespace Session

/-- The observations of steps taken one after the other. -/
def observations (instances : Instances) : System → List Step → List (Observation CallResult)
  | _, [] => []
  | s, step :: rest =>
    let (s, result) := step.run instances s
    let (s, observation) := s.observe result
    observation :: observations instances s rest

end Session

end Turnstile

import Turnstile.Proc.Basic

set_option autoImplicit false

/-! # Running a process

An effect is issued, which may take note of it and tells how long it waits, and then performed.
`Proc.run` runs a process as the only task, so that a wait just lets time pass. -/

namespace Turnstile

/-- The effect of an operation. -/
def Operation.apply (s : System) : Operation → System
  | .keepHandle name handle =>
    { s with handles := (name, handle) :: s.handles.filter (·.1 ≠ name) }
  | .setSkew index ms => { s with skews := s.skews.set index ms }
  | .addFault fault => { s with faults := s.faults ++ [fault] }
  | .clearFaults => { s with faults := [] }
  | .write key value ttl =>
    { s with store := s.store.put key ⟨value, ttl.map (s.elapsed + ·)⟩ }
  | .erase key => { s with store := s.store.erase key }
  | .resetMetrics => { s with metrics := s.metrics.reset }

/-- The effect of a command that meets a fault, at the instant it takes effect. -/
def System.execute (s : System) (task : Nat) (action : FaultAction) (c : Command) :
    System × Except Failure Json :=
  let (store, result) := action.apply s.elapsed s.store c
  ({ s with store }.note task (.command c result), result)

/-- An effect that has been issued: the system then, how long the effect waits, and what comes in
    the way of a command. -/
structure Issued where
  system : System
  delay : Int := 0
  action : FaultAction := .perform

namespace Effect

/-- The effect takes time, in which other tasks run. -/
def waits : Effect → Bool
  | .command _ | .pause _ | .wait _ => true
  | _ => false

/-- Issue an effect of a task. A command meets its fault when it is issued. -/
def issue (task : Nat) (s : System) : Effect → Issued
  | .command c =>
    let (met, faults) := Fault.meet c s.faults
    let fault := met.getD { kind := c.kind }
    { system := { s with faults }, delay := fault.latency, action := fault.action }
  | .pause ms => { system := s.note task (.pause ms), delay := ms }
  | .wait ms => { system := s, delay := ms }
  | _ => { system := s }

/-- Perform an effect of a task that has been issued and has waited. -/
def perform (task : Nat) (action : FaultAction) (s : System) : (e : Effect) → System × e.Answer
  | .command c => s.execute task action c
  | .pause _ | .wait _ => (s, ())
  | .log entry => ({ s with logs := s.logs ++ [entry] }, ())
  | .countOutcome outcome => ({ s with metrics := s.metrics.countOutcome outcome.name }, ())
  | .countRequest method path status =>
    ({ s with metrics := s.metrics.countRequest method path status }, ())
  | .exposition => (s, s.monotonic.map s.metrics.exposition)
  | .clock source => (s, s.read source)
  | .monotonic => (s, s.monotonic)
  | .freshToken => ({ s with tokens := s.tokens + 1 }, s.tokens + 1)
  | .operate operation => (operation.apply s, ())
  | .handle name => (s, s.handles.lookup name)

end Effect

/-- Run a process as the only task. -/
def Proc.run {α : Type} (task : Nat) : Proc α → System → System × α
  | .done a, s => (s, a)
  | .perform e next, s =>
    let issued := e.issue task s
    let performed := e.perform task issued.action (issued.system.wait issued.delay)
    (next performed.2).run task performed.1

/-- Running one process after the other is running both in turn. -/
theorem Proc.run_bind {α β : Type} (task : Nat) (p : Proc α) (f : α → Proc β) (s : System) :
    (p.bind f).run task s = (f (p.run task s).2).run task (p.run task s).1 := by
  induction p generalizing s with
  | done a => rfl
  | perform e next ih =>
    simp only [Proc.perform_bind, Proc.run]
    exact ih _ _

end Turnstile

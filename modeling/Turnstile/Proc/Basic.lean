import Turnstile.System

set_option autoImplicit false

/-! # Processes

What a task does is a tree: at each node an effect, and for each answer to it the way on. A process
is data, so it can be run alone (`Proc.run`), among others (`Schedule`), or be reasoned about for
any answers at all.

Commands, pauses and waits take time and let other tasks run; all other effects happen at once. -/

namespace Turnstile

/-- What the operator of a session does to the system, at once and past the service. -/
inductive Operation where
  | keepHandle (name : String) (handle : LockHandle)
  | setSkew (index : Nat) (ms : Int)
  | addFault (fault : Fault)
  | clearFaults
  | write (key value : String) (ttl : Option Int)
  | erase (key : String)
  | resetMetrics

/-- What a process asks of the system. -/
inductive Effect where
  /-- Issue a command to the store. -/
  | command (c : Command)
  /-- Wait before another try, in a way that the trace shows. -/
  | pause (ms : Int)
  /-- Let time pass. -/
  | wait (ms : Int)
  | log (entry : LogEntry)
  | countOutcome (outcome : AttemptOutcome)
  | countRequest (method path : String) (status : Int)
  /-- Read the metrics' exposition. -/
  | exposition
  | clock (source : Clock)
  | monotonic
  /-- Draw the next token; no two are equal. -/
  | freshToken
  | operate (operation : Operation)
  /-- Look up a lock handle kept under a name. -/
  | handle (name : String)

/-- What the system answers to an effect. -/
def Effect.Answer : Effect → Type
  | .command _ => Except Failure Json
  | .exposition => Except Failure String
  | .clock _ => Except Failure Int
  | .monotonic => Except Failure Binary64
  | .freshToken => Nat
  | .handle _ => Option LockHandle
  | .pause _ | .wait _ | .log _ | .countOutcome _ | .countRequest .. | .operate _ => Unit

/-- A process that ends in an `α`. -/
inductive Proc (α : Type) where
  | done (result : α)
  | perform (effect : Effect) (next : effect.Answer → Proc α)

namespace Proc

variable {α β γ : Type}

/-- Run one process and go on with its result. -/
def bind : Proc α → (α → Proc β) → Proc β
  | .done a, f => f a
  | .perform e next, f => .perform e fun answer => (next answer).bind f

instance : Monad Proc where
  pure := .done
  bind := .bind

/-- The process of a single effect. -/
def ask (e : Effect) : Proc e.Answer := .perform e .done

@[simp] theorem pure_eq (a : α) : (pure a : Proc α) = .done a := rfl

@[simp] theorem bind_eq (p : Proc α) (f : α → Proc β) : p >>= f = p.bind f := rfl

@[simp] theorem done_bind (a : α) (f : α → Proc β) : (done a).bind f = f a := rfl

@[simp] theorem perform_bind (e : Effect) (next : e.Answer → Proc α) (f : α → Proc β) :
    (perform e next).bind f = .perform e fun answer => (next answer).bind f := rfl

theorem bind_done (p : Proc α) : p.bind .done = p := by
  induction p with
  | done a => rfl
  | perform e next ih => simp [ih]

theorem bind_assoc (p : Proc α) (f : α → Proc β) (g : β → Proc γ) :
    (p.bind f).bind g = p.bind fun a => (f a).bind g := by
  induction p with
  | done a => rfl
  | perform e next ih => simp [ih]

instance : LawfulMonad Proc := LawfulMonad.mk' Proc
  (fun p => bind_done p)
  (fun _ _ => rfl)
  (fun p f g => bind_assoc p f g)

end Proc

/-! ## Routines -/

/-- A process that may end in a failure. -/
abbrev Routine := ExceptT Failure Proc

namespace Routine

variable {α β : Type}

/-- A routine of a single effect that does not fail. -/
def ask (e : Effect) : Routine e.Answer := ExceptT.lift (Proc.ask e)

/-- Read a clock; where it cannot be read the routine fails. -/
def readClock (source : Clock) : Routine Int := ExceptT.mk (Proc.ask (.clock source))

/-- Read the monotonic clock; where it cannot be read the routine fails. -/
def monotonic : Routine Binary64 := ExceptT.mk (Proc.ask .monotonic)

/-- Read the metrics' exposition, which tells the time. -/
def exposition : Routine String := ExceptT.mk (Proc.ask .exposition)

/-- Draw a token. -/
def freshToken : Routine Nat := ask .freshToken

/-- Issue a command; its failure is the routine's. -/
def command (c : Command) : Routine Json := ExceptT.mk (Proc.ask (.command c))

/-- A result or failure that is come to without any effect. -/
def ofExcept (x : Except Failure α) : Routine α := ExceptT.mk (pure x)

/-- A routine's result or failure, as a result. -/
def observe (r : Routine α) : Routine (Except Failure α) := ExceptT.lift r.run

/-- Log a line. -/
def log (level : LogLevel) (logger : Logger) (message : String) : Routine Unit :=
  ask (.log ⟨level, logger, message⟩)

/-- Count an outcome. -/
def count (outcome : AttemptOutcome) : Routine Unit := ask (.countOutcome outcome)

/-- Handle the failures that satisfy a predicate; others pass. -/
def catching (r : Routine α) (handled : Failure → Bool) (handler : Failure → Routine α) :
    Routine α := do
  match ← observe r with
  | .ok a => return a
  | .error f => if handled f then handler f else throw f

/-- Run `last` after `r`, however that ended. A failure of `last` takes the place of what `r` ended
    in. -/
def ending (r : Routine α) (last : Routine β) : Routine α := do
  let outcome ← observe r
  let _ ← last
  match outcome with
  | .ok a => return a
  | .error f => throw f

end Routine

end Turnstile

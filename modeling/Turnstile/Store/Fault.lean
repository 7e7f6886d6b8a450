import Turnstile.Store.Command

set_option autoImplicit false

/-! # Faults of the store

A fault waits for a command of its kind, and of its key when it names one, and then delays it, makes
it fail before or after its effect, or answers in its place. Faults stand in a row and a command
meets the first that is meant for it. -/

namespace Turnstile

/-- What a fault does beside delaying. -/
inductive FaultAction where
  /-- Perform the command. -/
  | perform
  /-- Fail, after performing the command when `afterEffect` holds. -/
  | fail (cls : ErrorClass) (message : String) (afterEffect : Bool)
  /-- Reply in place of performing the command. -/
  | reply (value : Json)
deriving Repr

/-- A fault. It lets the first `skip` commands pass and then meets `times` of them, or all of them
    when `times` is not positive. -/
structure Fault where
  kind : Command.Kind
  key : Option String := none
  skip : Int := 0
  times : Int := 1
  latency : Int := 0
  action : FaultAction := .perform
deriving Repr

namespace Fault

/-- The fault is meant for the command. -/
def concerns (f : Fault) (c : Command) : Bool :=
  f.kind = c.kind && (f.key = none || f.key = c.key?)

/-- The fault that a command meets, and the faults that are left. -/
def meet (c : Command) : List Fault → Option Fault × List Fault
  | [] => (none, [])
  | f :: rest =>
    if !f.concerns c then
      let (found, others) := meet c rest
      (found, f :: others)
    else if 0 < f.skip then (none, { f with skip := f.skip - 1 } :: rest)
    else if f.times = 1 then (some f, rest)
    else (some f, { f with times := f.times - 1 } :: rest)

end Fault

/-- The effect of an action on a command at an instant. A failure of the command itself comes before
    one that the action adds after it. -/
def FaultAction.apply (action : FaultAction) (now : Int) (s : Store) (c : Command) :
    Store × Except Failure Json :=
  match action with
  | .perform => c.perform now s
  | .fail cls message false => (s, .error (.raised cls message))
  | .fail cls message true =>
    match c.perform now s with
    | (s', .error f) => (s', .error f)
    | (s', .ok _) => (s', .error (.raised cls message))
  | .reply value => (s, .ok value)

end Turnstile

import Turnstile.Proc.Basic

set_option autoImplicit false

/-! # The lock

A lock is an entry of the store that holds its owner's token and goes by itself after a time to
live. To acquire it is to set the entry where there is none, with some more tries after pauses; to
release it is to delete the entry where it still holds the token, so that a late owner never drops
its successor's lock. Ownership is advisory: a handle past its time to live may be anyone's. -/

namespace Turnstile

/-- A token as 32 hexadecimal digits. -/
def tokenDigits (n : Nat) : List Char := (Nat.toDigits 16 n).leftpad 32 '0'

/-- How a lock is acquired: its time to live, the tries after the first one and the pause before
    each of them, in milliseconds. -/
structure LockOptions where
  ttl : Int
  retries : Int
  retryDelay : Int
deriving DecidableEq, Repr

namespace Lock

/-- The class and message of a failure raised by the store. -/
def causeOf : Failure → Option (ErrorClass × String)
  | .raised cls message => some (cls, message)
  | _ => none

/-- Pause before another try. -/
def pause (ms : Int) : Routine Unit :=
  match pauseMillis? ms with
  | some ms => Routine.ask (.pause ms)
  | none => throw .numberTooLarge

/-- The last `left` tries, of which `made` were made before; `cause` is the last failure among
    those. -/
def tries (key token : String) (o : LockOptions) :
    (left made : Nat) → (cause : Option (ErrorClass × String)) → Routine LockHandle
  | 0, _, cause => do
    let total := o.retries + 1
    Routine.log .debug .cache s!"lock not acquired key={key} tries={total}"
    throw (.lockUnavailable key cause)
  | left + 1, made, cause => do
    -- There is no pause before the first try.
    if made ≠ 0 then pause o.retryDelay
    match ← Routine.observe (Routine.command (.setIfAbsent key token o.ttl)) with
    | .ok reply =>
      if reply.truthy then
        return { key, token, ttl := o.ttl, acquiredAt := ← Routine.monotonic }
      -- The lock is held; the last failure stays the cause, if no try succeeds.
      tries key token o left (made + 1) cause
    | .error f =>
      if f.isStoreError then
        let number := made + 1
        let reason := f.logText
        Routine.log .debug .cache s!"lock attempt failed key={key} attempt={number}: {reason}"
        tries key token o left (made + 1) (causeOf f)
      else throw f

/-- Acquire the lock under a key, as a token of its own. -/
def acquire (key : String) (o : LockOptions) : Routine LockHandle := do
  let token ← Routine.freshToken
  tries key (String.ofList (tokenDigits token)) o (o.retries + 1).toNat 0 none

/-- Release a lock. The answer tells whether this call deleted it; a failure of the store is logged
    and counts as no. -/
def release (handle : LockHandle) : Routine Bool := do
  let key := handle.key
  let delete := do return (← Routine.command (.deleteIfEqual key handle.token)).truthy
  delete.catching Failure.isStoreError fun f => do
    let reason := f.logText
    Routine.log .warning .cache s!"lock release failed key={key}: {reason}"
    return false

/-- The time to live of a lock has run out, by the monotonic clock. -/
def expired (handle : LockHandle) : Routine Bool := do
  let now ← Routine.monotonic
  return (millisBetween handle.acquiredAt now).reaches handle.ttl

/-- Run `body` with the lock held, and release the lock however that ends. -/
def holding {α : Type} (key : String) (o : LockOptions) (body : LockHandle → Routine α) :
    Routine α := do
  let handle ← acquire key o
  (body handle).ending (release handle)

end Lock

end Turnstile

import Turnstile.Json.Writer
import Turnstile.Proc.Basic

set_option autoImplicit false

/-! # The cache

JSON values kept in the store as text, each for a number of seconds. Every operation is a single
command; whoever reads and then writes must hold a lock meanwhile. -/

namespace Turnstile

namespace Cache

/-- The value that a reply of the store holds; no entry is `null`. -/
def valueOf : Json → Except Failure Json
  | .null => .ok .null
  | .text raw =>
    match Json.read raw with
    | .ok value => .ok value
    | .error reason => .error (.unreadable reason)
  | _ => .error .notText

/-- The value under a key, or `null`. -/
def get (key : String) : Routine Json := do
  let reply ← Routine.command (.get key)
  Routine.ofExcept (valueOf reply)

/-- Keep a value under a key for a number of seconds. -/
def set (key : String) (value : Json) (ttlSeconds : Int) : Routine Unit := do
  if !value.integersFit then throw .integerTooLong
  let _ ← Routine.command (.set key (value.write .stored) ttlSeconds)

/-- Remove what is under a key. -/
def remove (key : String) : Routine Unit := do
  let _ ← Routine.command (.delete key)

/-- The store answers. A failure of the store is logged and counts as no. -/
def ping : Routine Bool := do
  let reply := do return (← Routine.command .ping).truthy
  reply.catching Failure.isStoreError fun f => do
    let reason := f.logText
    Routine.log .warning .cache s!"redis ping failed: {reason}"
    return false

/-- Give the connection up. -/
def close : Routine Unit := do
  let _ ← Routine.command .close

end Cache

end Turnstile

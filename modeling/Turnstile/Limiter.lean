import Turnstile.Cache
import Turnstile.Lock
import Turnstile.Text.LowerCase
import Turnstile.Window

set_option autoImplicit false

/-! # The limiter

Counts failed attempts per world and subject in a sliding window that all instances share. A record
is read, decided upon and written back under a lock of its own. Where the lock or the store fails
the limiter fails open: the attempt is allowed and may go uncounted. -/

namespace Turnstile

/-! ## Keys -/

/-- The world and the subject in lower case, with a colon between. -/
def pairSuffix (world subject : String) : String := lowerCase world ++ ":" ++ lowerCase subject

/-- The key of a pair's record. -/
def attemptsKey (world subject : String) : String :=
  "shared-secret:attempts:" ++ pairSuffix world subject

/-- The key of a pair's lock. -/
def lockKey (world subject : String) : String :=
  "shared-secret:attempts:lock:" ++ pairSuffix world subject

/-! ## Limiters -/

/-- How many failed attempts are allowed in a window, how long a record is kept, and how its lock is
    acquired. -/
structure LimiterConfig where
  cap : Int := 3
  windowSeconds : Int := 60
  recordSeconds : Int := 70
  lock : LockOptions := { ttl := 5000, retries := 3, retryDelay := 100 }
deriving DecidableEq, Repr

/-- A limiter, which goes by a clock. -/
structure Limiter where
  config : LimiterConfig
  clock : Clock

namespace Limiter

/-- The timestamps of a stored record that lie in the window ending at `now`. -/
def recent (l : Limiter) (stored : Json) (now : Int) : Except Failure (List Int) :=
  Window.recent (Window.attempts stored) now l.config.windowSeconds

/-- The cap is reached by a number of attempts. -/
def capReached (l : Limiter) (recent : List Int) : Bool := l.config.cap ≤ recent.length

/-- The pair is over its cap. This only reads and takes no lock, so that the write of another task
    may be missed; any failure is logged and counts as no. -/
def isLimited (l : Limiter) (world subject : String) : Routine Bool := do
  let key := attemptsKey world subject
  let look := do
    let stored ← Cache.get key
    let now ← Routine.readClock l.clock
    let recent ← Routine.ofExcept (l.recent stored now)
    return l.capReached recent
  look.catching (!·.isCancellation) fun f => do
    let reason := f.logText
    Routine.log .warning .limiter s!"rate limit check failed key={key}, allowing: {reason}"
    return false

/-- The stored record; one that cannot be read or had counts as empty. -/
def storedRecord (key : String) : Routine Json :=
  (Cache.get key).catching (fun f => f.isStoreError || f.isValueError) fun f => do
    let reason := f.logText
    Routine.log .warning .limiter s!"attempts read failed key={key}, treating as empty: {reason}"
    return .null

/-- Write a record with one more attempt, and count the outcome. A failure of the store is logged.
    -/
def writeRecord (l : Limiter) (key : String) (timestamps : List Int) : Routine Unit := do
  let write := do
    Cache.set key (Window.record timestamps) l.config.recordSeconds
    return AttemptOutcome.allowed
  let outcome ← write.catching Failure.isStoreError fun f => do
    let reason := f.logText
    Routine.log .warning .limiter
      s!"attempts write failed key={key}, attempt not tracked: {reason}"
    return .failOpen
  Routine.count outcome

/-- What is done under the lock: unless the cap is reached, or the lock has meanwhile run out, the
    attempt joins the record. The answer tells whether the cap was reached. -/
def checkAndRecord (l : Limiter) (key : String) (handle : LockHandle) : Routine Bool := do
  let now ← Routine.readClock l.clock
  let stored ← storedRecord key
  let recent ← Routine.ofExcept (l.recent stored now)
  if l.capReached recent then
    let size := recent.length
    Routine.log .info .limiter s!"rate limited key={key} attempts={size}"
    Routine.count .rateLimited
    return true
  if ← Lock.expired handle then
    Routine.log .warning .limiter s!"lock expired before write key={key}, attempt not tracked"
    Routine.count .failOpen
    return false
  l.writeRecord key (recent ++ [now])
  return false

/-- Why an attempt was not tracked, as a log line says it. -/
def untrackedReason : Failure → String
  | .lockUnavailable .. => "lock_unavailable"
  | _ => "error"

/-- Record a failed attempt of a pair unless it is over its cap, and tell whether it is. -/
def recordFailure (l : Limiter) (world subject : String) : Routine Bool := do
  let key := attemptsKey world subject
  let tracked := Lock.holding (lockKey world subject) l.config.lock (l.checkAndRecord key)
  tracked.catching (!·.isCancellation) fun f => do
    let reason := untrackedReason f
    let detail := f.logText
    Routine.log .warning .limiter s!"attempt not tracked key={key} reason={reason}: {detail}"
    Routine.count .failOpen
    return false

/-- Drop the record of a pair. This takes no lock: a task that is writing meanwhile at worst adds
    its own attempt again. -/
def clear (world subject : String) : Routine Unit := do
  let key := attemptsKey world subject
  let drop := do
    Cache.remove key
    return true
  let dropped ← drop.catching Failure.isStoreError fun f => do
    let reason := f.logText
    Routine.log .warning .limiter s!"clear attempts failed key={key}: {reason}"
    return false
  if dropped then Routine.count .cleared

end Limiter

end Turnstile

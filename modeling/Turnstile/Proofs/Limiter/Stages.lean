import Turnstile.Proofs.Json.Record
import Turnstile.Proofs.Run.Protocol
import Turnstile.Session

set_option autoImplicit false

/-! # The stages of a call

What a call on the limiter does next depends on what it was answered, and on little of that. A
`Stage` keeps what matters: the token and the instant of the lock that the call holds, the clock
reading and the recent timestamps that it decided upon, and what it decided. `Site.Step` lists what
a call may do at each stage. -/

namespace Turnstile

/-! ## Keys -/

theorem lockPrefix_eq :
    "shared-secret:attempts:lock:" = "shared-secret:attempts:" ++ "lock:" := by rfl

theorem count_colon_lockInfix : "lock:".toList.count ':' = 1 := by rfl

/-- The key of a lock is that of a record of a longer pair. -/
theorem lockKey_eq (world subject : String) :
    lockKey world subject = "shared-secret:attempts:" ++ ("lock:" ++ pairSuffix world subject) := by
  unfold lockKey
  generalize pairSuffix world subject = suffix
  rw [lockPrefix_eq]
  exact String.append_assoc

/-- A record and a lock lie apart whose pairs have equally many colons, as the lock's key has the
    colon after its word besides. -/
theorem attemptsKey_ne_lockKey_of_count_eq {world subject world' subject' : String}
    (colons : (pairSuffix world subject).toList.count ':'
      = (pairSuffix world' subject').toList.count ':') :
    attemptsKey world subject ≠ lockKey world' subject' := by
  intro h
  rw [lockKey_eq] at h
  unfold attemptsKey at h
  have same : pairSuffix world subject = "lock:" ++ pairSuffix world' subject' :=
    (String.append_right_inj _).1 h
  rw [same, String.toList_append, List.count_append, count_colon_lockInfix] at colons
  omega

/-- The key of a pair's record is not that of its lock. -/
theorem attemptsKey_ne_lockKey (world subject : String) :
    attemptsKey world subject ≠ lockKey world subject :=
  attemptsKey_ne_lockKey_of_count_eq rfl

/-- Pairs that share a record share a lock. -/
theorem lockKey_congr {world subject world' subject' : String}
    (h : attemptsKey world subject = attemptsKey world' subject') :
    lockKey world subject = lockKey world' subject' := by
  unfold attemptsKey at h
  unfold lockKey
  rw [(String.append_right_inj _).1 h]

/-! ## Sites -/

/-- Where a call works: the pair that it is about and the limiter that it goes by, and whether it
    may look at the record without a lock, record an attempt and drop the record. -/
structure Site where
  limiter : Limiter
  world : String
  subject : String
  looks : Bool
  records : Bool
  drops : Bool

namespace Site

variable (p : Site)

/-- The key of the record. -/
def key : String := attemptsKey p.world p.subject

/-- The key of the lock. -/
def lock : String := lockKey p.world p.subject

/-- The time to live of the lock. -/
def ttl : Int := p.limiter.config.lock.ttl

/-- How long a record is kept, in seconds. -/
def keep : Int := p.limiter.config.recordSeconds

end Site

/-! ## Stages -/

/-- A lock that was acquired as a token, and when its entry was set. -/
structure Hold where
  token : Nat
  since : Int
deriving DecidableEq

/-- How far a call got under its lock. -/
inductive Phase where
  /-- The lock's entry is set; the handle is not made yet. -/
  | granted
  /-- There is a handle, acquired at a reading of the monotonic clock. -/
  | begun (acquired : Binary64)
  /-- The limiter's clock was read. -/
  | timed (acquired : Binary64) (now : Int)
  /-- The record was read, and has room for one more attempt. -/
  | room (acquired : Binary64) (now : Int) (recent : List Int)
  /-- The lock has not run out; the timestamps are to be written. -/
  | ready (timestamps : List Int)
  /-- The timestamps were written; the attempt is to be counted as allowed. -/
  | written
  /-- What is left is to release the lock. -/
  | closing (outcome : Except Failure Bool)

/-- How far a call got. -/
inductive Stage where
  /-- The call has not started yet. -/
  | delayed
  /-- Nothing was asked of the store yet. -/
  | idle
  /-- A look without a lock found a value. -/
  | looked (value : Json)
  /-- A look without a lock came to its answer. -/
  | weighed (limited : Bool)
  /-- The record was dropped. -/
  | dropped
  /-- A token was drawn, and no lock is acquired yet; `again` tells whether one was tried for. -/
  | trying (token : Nat) (again : Bool)
  /-- The lock was acquired and not released yet. -/
  | inside (hold : Hold) (phase : Phase)
  /-- The lock was released, or at least tried to. -/
  | finished (outcome : Except Failure Bool)
  /-- A failure ended the call, or kept it from its handle. -/
  | failed (f : Failure)

namespace Stage

/-- The lock that a call holds. -/
def hold? : Stage → Option Hold
  | .inside hold _ => some hold
  | _ => none

/-- The token that a call tries to acquire its lock as, or holds it as. -/
def token? : Stage → Option Nat
  | .trying token _ => some token
  | .inside hold _ => some hold.token
  | _ => none

/-- A call that has neither looked nor been turned away may go on to the locked section or drop
    the record. -/
def IsOpen : Stage → Prop
  | .idle | .weighed false => True
  | _ => False

/-- A look that failed answers no, except that a cancellation ends the call. -/
def unseen (f : Failure) : Stage := if f.isCancellation then .failed f else .weighed false

end Stage

/-! ## What the answers lead to -/

namespace Site

variable (p : Site)

/-- After a look without a lock. -/
def seen (reply : Except Failure Json) : Stage :=
  match reply.bind Cache.valueOf with
  | .ok value => .looked value
  | .error f => .unseen f

/-- After the clock was read for a value found without a lock. -/
def weigh (value : Json) (reading : Except Failure Int) : Stage :=
  match reading.bind (p.limiter.recent value) with
  | .ok recent => .weighed (p.limiter.capReached recent)
  | .error f => .unseen f

/-- After a try for the lock. -/
def tried (token : Nat) (time : Int) : Except Failure Json → Stage
  | .ok reply => if reply.truthy then .inside ⟨token, time⟩ .granted else .trying token true
  | .error f => if f.isStoreError then .trying token true else .failed f

/-- After the monotonic clock was read for the handle. -/
def handled (hold : Hold) : Except Failure Binary64 → Stage
  | .ok acquired => .inside hold (.begun acquired)
  | .error f => .failed f

/-- After the limiter's clock was read. -/
def timed (acquired : Binary64) : Except Failure Int → Phase
  | .ok now => .timed acquired now
  | .error f => .closing (.error f)

/-- The stored record by the reply to a read. -/
def stored (reply : Except Failure Json) : Except Failure Json :=
  match reply.bind Cache.valueOf with
  | .ok value => .ok value
  | .error f => if f.isStoreError || f.isValueError then .ok .null else .error f

/-- A record that was written is the one stored. -/
theorem stored_record {kept : List Int} (fit : (Window.record kept).integersFit) :
    stored (.ok (.text ((Window.record kept).write .stored))) = .ok (Window.record kept) := by
  simp [stored, Except.bind, Cache.valueOf_record fit]

/-- After the record was read. -/
def judge (acquired : Binary64) (now : Int) (reply : Except Failure Json) : Phase :=
  match (stored reply).bind fun value => p.limiter.recent value now with
  | .ok recent =>
    if p.limiter.capReached recent then .closing (.ok true) else .room acquired now recent
  | .error f => .closing (.error f)

/-- After the monotonic clock was read for the age of the handle. -/
def prepare (acquired : Binary64) (timestamps : List Int) : Except Failure Binary64 → Phase
  | .ok now =>
    if (millisBetween acquired now).reaches p.ttl then .closing (.ok false)
    else if (Window.record timestamps).integersFit then .ready timestamps
    else .closing (.error .integerTooLong)
  | .error f => .closing (.error f)

/-- After the record was written. -/
def kept : Except Failure Json → Phase
  | .ok _ => .written
  | .error f => if f.isStoreError then .closing (.ok false) else .closing (.error f)

/-- What a call comes to after its lock was released. -/
def released (outcome : Except Failure Bool) : Except Failure Json → Except Failure Bool
  | .ok _ => outcome
  | .error f => if f.isStoreError then outcome else .error f

/-- After the record was dropped. -/
def dropped : Except Failure Json → Stage
  | .ok _ => .dropped
  | .error f => if f.isStoreError then .dropped else .failed f

/-! ## Steps -/

/-- What a call may do at a stage, and the stage it then reaches. -/
inductive Step : Stage → Event → Stage → Prop where
  | log {stage : Stage} {time : Int} {task : Nat} {entry : LogEntry} {action : FaultAction}
      {answer : Unit} : Step stage ⟨time, task, .log entry, action, answer⟩ stage
  | count {stage : Stage} {time : Int} {task : Nat} {outcome : AttemptOutcome}
      {action : FaultAction} {answer : Unit} (other : outcome ≠ .allowed) :
      Step stage ⟨time, task, .countOutcome outcome, action, answer⟩ stage
  | wait {time : Int} {task : Nat} {ms : Int} {action : FaultAction} {answer : Unit} :
      Step .delayed ⟨time, task, .wait ms, action, answer⟩ .idle
  | pause {time : Int} {task token : Nat} {ms : Int} {action : FaultAction} {answer : Unit} :
      Step (.trying token true) ⟨time, task, .pause ms, action, answer⟩ (.trying token true)
  | look (may : p.looks) {time : Int} {task : Nat} {action : FaultAction}
      {reply : Except Failure Json} :
      Step .idle ⟨time, task, .command (.get p.key), action, reply⟩ (seen reply)
  | weigh {value : Json} {time : Int} {task : Nat} {action : FaultAction}
      {reading : Except Failure Int} :
      Step (.looked value) ⟨time, task, .clock p.limiter.clock, action, reading⟩
        (p.weigh value reading)
  | drop {stage : Stage} (may : p.drops) (isOpen : stage.IsOpen) {time : Int} {task : Nat}
      {action : FaultAction} {reply : Except Failure Json} :
      Step stage ⟨time, task, .command (.delete p.key), action, reply⟩ (dropped reply)
  | draw {stage : Stage} (may : p.records) (isOpen : stage.IsOpen) {time : Int}
      {task token : Nat} {action : FaultAction} :
      Step stage ⟨time, task, .freshToken, action, token⟩ (.trying token false)
  | contend {token : Nat} {again : Bool} {time : Int} {task : Nat} {action : FaultAction}
      {reply : Except Failure Json} :
      Step (.trying token again)
        ⟨time, task, .command (.setIfAbsent p.lock (tokenText token) p.ttl), action, reply⟩
        (tried token time reply)
  | handle {hold : Hold} {time : Int} {task : Nat} {action : FaultAction}
      {reading : Except Failure Binary64} :
      Step (.inside hold .granted) ⟨time, task, .monotonic, action, reading⟩ (handled hold reading)
  | time {hold : Hold} {acquired : Binary64} {time : Int} {task : Nat} {action : FaultAction}
      {reading : Except Failure Int} :
      Step (.inside hold (.begun acquired)) ⟨time, task, .clock p.limiter.clock, action, reading⟩
        (.inside hold (timed acquired reading))
  | judge {hold : Hold} {acquired : Binary64} {now time : Int} {task : Nat} {action : FaultAction}
      {reply : Except Failure Json} :
      Step (.inside hold (.timed acquired now)) ⟨time, task, .command (.get p.key), action, reply⟩
        (.inside hold (p.judge acquired now reply))
  | prepare {hold : Hold} {acquired : Binary64} {now time : Int} {recent : List Int} {task : Nat}
      {action : FaultAction} {reading : Except Failure Binary64} :
      Step (.inside hold (.room acquired now recent)) ⟨time, task, .monotonic, action, reading⟩
        (.inside hold (p.prepare acquired (recent ++ [now]) reading))
  | write {hold : Hold} {timestamps : List Int} {time : Int} {task : Nat} {action : FaultAction}
      {reply : Except Failure Json} :
      Step (.inside hold (.ready timestamps))
        ⟨time, task, .command (.set p.key ((Window.record timestamps).write .stored) p.keep),
          action, reply⟩
        (.inside hold (kept reply))
  | allow {hold : Hold} {time : Int} {task : Nat} {action : FaultAction} {answer : Unit} :
      Step (.inside hold .written) ⟨time, task, .countOutcome .allowed, action, answer⟩
        (.inside hold (.closing (.ok false)))
  | release {hold : Hold} {outcome : Except Failure Bool} {time : Int} {task : Nat}
      {action : FaultAction} {reply : Except Failure Json} :
      Step (.inside hold (.closing outcome))
        ⟨time, task, .command (.deleteIfEqual p.lock (tokenText hold.token)), action, reply⟩
        (.finished (released outcome reply))

/-- The protocol of the calls on a site. -/
def protocol : Protocol Stage where
  step := p.Step
  own := by
    intro stage e stage' step
    cases step <;> trivial

end Site

end Turnstile

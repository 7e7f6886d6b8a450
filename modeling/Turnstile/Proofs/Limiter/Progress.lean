import Turnstile.Proofs.Limiter.Deeds
import Turnstile.Proofs.Run.Routine
import Turnstile.Session

set_option autoImplicit false

/-! # How a record call goes on

A call that records an attempt tries for its lock, pauses and tries again. It gives up when its last
try was refused, and otherwise counts one outcome after it has acquired its lock. A `Progress` keeps
how many pauses the call has made and what it has counted, and nothing of what it found. -/

namespace Turnstile

/-- How far a record call got. -/
inductive Progress where
  /-- The call has not started yet. -/
  | delayed
  /-- The next try is due, after so many pauses. -/
  | ready (pauses : Nat)
  /-- The try after so many pauses did not acquire the lock. -/
  | refused (pauses : Nat)
  /-- The lock was acquired, and no outcome was counted yet. -/
  | acquired
  /-- The lock was acquired, and an outcome was counted. -/
  | counted (outcome : AttemptOutcome)
  /-- The last try was refused, and the attempt was counted as not tracked. -/
  | gaveUp
  /-- A command about the lock failed in a way that no store does. -/
  | broken

/-- The effect is neither a wait nor a count, nor does it try for a lock. -/
def Effect.light : Effect → Bool
  | .log _ | .freshToken | .clock _ | .monotonic => true
  | .command (.get _) | .command (.set ..) | .command (.deleteIfEqual ..) => true
  | _ => false

namespace Event

/-- A command failed, and not by a failure of the store. -/
def upsets : Event → Bool
  | ⟨_, _, .command _, _, .error f⟩ => !f.isStoreError
  | _ => false

/-- A try for a lock did not acquire it. -/
def refuses (lock : String) (e : Event) : Bool :=
  match e.effect with
  | .command (.setIfAbsent key _ _) => key = lock && !e.acquires lock
  | _ => false

end Event

namespace Progress

/-- What a record call does at a stage: `retries` more tries at most, each after a pause of `pause`
    milliseconds. -/
inductive Step (lock : String) (retries pause : Int) : Progress → Event → Progress → Prop where
  | wait {time : Int} {task : Nat} {ms : Int} {action : FaultAction} {answer : Unit} :
      Step lock retries pause .delayed ⟨time, task, .wait ms, action, answer⟩ (.ready 0)
  | aside {stage : Progress} {e : Event} (begun : stage ≠ .delayed) (light : e.effect.light) :
      Step lock retries pause stage e stage
  | acquire {n : Nat} {e : Event} (acquires : e.acquires lock) :
      Step lock retries pause (.ready n) e .acquired
  | refuse {n : Nat} {e : Event} (refuses : e.refuses lock) :
      Step lock retries pause (.ready n) e (.refused n)
  | pause {n : Nat} (left : (n : Int) < retries) {time : Int} {task : Nat} {action : FaultAction}
      {answer : Unit} :
      Step lock retries pause (.refused n) ⟨time, task, .pause pause, action, answer⟩
        (.ready (n + 1))
  | giveUp {n : Nat} (last : (n : Int) = retries) {time : Int} {task : Nat} {action : FaultAction}
      {answer : Unit} :
      Step lock retries pause (.refused n) ⟨time, task, .countOutcome .failOpen, action, answer⟩
        .gaveUp
  | count {o : AttemptOutcome} (kept : o ≠ .cleared) {time : Int} {task : Nat}
      {action : FaultAction} {answer : Unit} :
      Step lock retries pause .acquired ⟨time, task, .countOutcome o, action, answer⟩ (.counted o)
  | upset {stage : Progress} {e : Event} (upsets : e.upsets) :
      Step lock retries pause stage e .broken
  | late {outcome : AttemptOutcome} {time : Int} {task : Nat} {action : FaultAction}
      {answer : Unit} :
      Step lock retries pause .broken ⟨time, task, .countOutcome outcome, action, answer⟩ .broken

/-- The protocol of record calls, as to their tries and what they count. -/
def protocol (lock : String) (retries pause : Int) : Protocol Progress where
  step := Step lock retries pause
  own := by
    rintro stage ⟨time, task, effect, action, answer⟩ stage' step
    cases effect with
    | operate operation =>
      cases step with
      | aside begun light => cases light
      | acquire acquires => cases acquires
      | refuse refuses => cases refuses
      | upset upsets => cases upsets
    | _ => trivial

/-! ## Record calls obey -/

section

variable {lock : String} {o : LockOptions} {pause : Int} {task : Nat} {α : Type}

/-- A light effect changes nothing. -/
theorem aside_obeys {stage : Progress} (begun : stage ≠ .delayed) {e : Effect} (light : e.light)
    {ends : Except Failure α → Progress → Prop} {next : e.Answer → Proc (Except Failure α)}
    (h : ∀ answer, (next answer).Obeys (protocol lock o.retries pause) task ends stage) :
    Proc.Obeys (protocol lock o.retries pause) task ends (.perform e next) stage :=
  fun _ _ answer => ⟨stage, .aside begun light, h answer⟩

/-- A line is logged. -/
theorem log_obeys {stage : Progress} (begun : stage ≠ .delayed) {level : LogLevel} {logger : Logger}
    {message : String} {ends : Except Failure α → Progress → Prop} {r : Routine α}
    (h : r.Obeys (protocol lock o.retries pause) task ends stage) :
    (Routine.log level logger message >>= fun _ => r).Obeys (protocol lock o.retries pause) task
      ends stage :=
  aside_obeys begun rfl fun _ => h

/-- Where a call is after so many tries that were refused. -/
def tried : Nat → Progress
  | 0 => .ready 0
  | n + 1 => .refused n

/-- How the acquisition of the lock ends. -/
inductive AcquireEnds (retries : Int) : Except Failure LockHandle → Progress → Prop where
  | acquired (outcome : Except Failure LockHandle) : AcquireEnds retries outcome .acquired
  | refused (f : Failure) {n : Nat} (last : (n : Int) = retries) :
      AcquireEnds retries (.error f) (.refused n)
  | broken (f : Failure) : AcquireEnds retries (.error f) .broken

/-- Before every try but the first there is a pause. -/
theorem pause_obeys {n : Nat} (left : (n : Int) < o.retries)
    (slept : pauseMillis? o.retryDelay = some pause) :
    (Lock.pause o.retryDelay).Obeys (protocol lock o.retries pause) task
      (fun outcome st => outcome = .ok () ∧ st = .ready (n + 1)) (.refused n) := by
  rw [Lock.pause, slept]
  exact fun _ _ _ => ⟨_, .pause left, rfl, rfl⟩

/-- A call gives up only when all its tries were refused. -/
theorem tries_obeys (slept : pauseMillis? o.retryDelay = some pause) {token : String}
    (left made : Nat) (all : (left + made : Int) = o.retries + 1) (tries : left + made ≠ 0)
    (cause : Option (ErrorClass × String)) :
    (Lock.tries lock token o left made cause).Obeys (protocol lock o.retries pause) task
      (AcquireEnds o.retries) (tried made) := by
  induction left generalizing made cause with
  | zero =>
    rw [Lock.tries]
    cases made with
    | zero => exact absurd rfl tries
    | succ n =>
      exact log_obeys (by simp [tried])
        (Routine.obeys_throw.2 (.refused (.lockUnavailable lock cause) (by omega)))
  | succ left ih =>
    have retry := fun cause => ih (made + 1) (by omega) (by omega) cause
    rw [Lock.tries]
    refine Routine.Obeys.first (fun outcome st => outcome = .ok () ∧ st = .ready made) ?_ ?_ ?_ ?_
    · intro again
      obtain ⟨n, rfl⟩ := Nat.exists_eq_succ_of_ne_zero again
      exact pause_obeys (by omega) slept
    · intro first
      rw [show made = 0 by omega]
      exact ⟨rfl, rfl⟩
    · rintro _ ⟨-, rfl⟩
      refine Routine.Obeys.observe (fun reply st =>
        (∃ reply', reply = .ok reply' ∧ reply'.truthy ∧ st = .acquired)
          ∨ (∃ f, reply = .error f ∧ f.isStoreError = false ∧ st = .broken)
          ∨ (∀ reply', reply = .ok reply' → reply'.truthy = false)
            ∧ (∀ f, reply = .error f → f.isStoreError = true) ∧ st = .refused made) ?_ ?_
      · intro time action reply
        cases reply with
        | ok reply =>
          cases truthy : reply.truthy with
          | true =>
            exact ⟨.acquired, .acquire (by simp [Event.acquires, truthy]),
              .inl ⟨reply, rfl, truthy, rfl⟩⟩
          | false =>
            exact ⟨.refused made, .refuse (by simp [Event.refuses, Event.acquires, truthy]),
              .inr (.inr ⟨fun _ h => by cases h; exact truthy, (fun _ h => nomatch h), rfl⟩)⟩
        | error f =>
          cases handled : f.isStoreError with
          | true =>
            exact ⟨.refused made, .refuse (by simp [Event.refuses, Event.acquires]),
              .inr (.inr ⟨(fun _ h => nomatch h), fun _ h => by cases h; exact handled, rfl⟩)⟩
          | false =>
            exact ⟨.broken, .upset (by simp [Event.upsets, handled]),
              .inr (.inl ⟨f, rfl, handled, rfl⟩)⟩
      · rintro outcome stage
          (⟨reply, rfl, truthy, rfl⟩ | ⟨f, rfl, other, rfl⟩ | ⟨falsy, handled, rfl⟩)
        · simp only [truthy, if_true]
          exact aside_obeys (by simp) rfl fun reading => by
            cases reading <;> exact .acquired _
        · simp only [other]
          exact .broken f
        · cases outcome with
          | ok reply =>
            simp only [falsy reply rfl]
            exact retry _
          | error f =>
            simp only [handled f rfl, if_true]
            exact log_obeys (by simp) (retry _)
    · rintro e stage ⟨h, -⟩
      cases h

theorem acquire_obeys (slept : pauseMillis? o.retryDelay = some pause) (retries : 0 ≤ o.retries) :
    (Lock.acquire lock o).Obeys (protocol lock o.retries pause) task (AcquireEnds o.retries)
      (.ready 0) :=
  aside_obeys (by simp) rfl fun _ =>
    tries_obeys slept _ 0 (by omega) (by omega) none

/-- The record is read without any other effect. -/
theorem storedRecord_obeys {key : String} :
    (Limiter.storedRecord key).Obeys (protocol lock o.retries pause) task
      (fun _ st => st = .acquired) .acquired := by
  refine Routine.Obeys.catching (fun _ st => st = .acquired) ?_ ?_ ?_ ?_
  · exact aside_obeys (by simp) rfl fun reply => by
      cases reply with
      | ok reply => exact Routine.obeys_ofExcept.2 rfl
      | error f => rfl
  · rintro value _ rfl
    rfl
  · rintro f _ rfl handled
    exact log_obeys (by simp) rfl
  · rintro f _ rfl passed
    rfl

/-- An outcome is counted when the record was written, or could not be. -/
theorem writeRecord_obeys {l : Limiter} {key : String} {timestamps : List Int} :
    (l.writeRecord key timestamps).Obeys (protocol lock o.retries pause) task
      (fun outcome st => match outcome with
        | .ok _ => st = .counted .allowed ∨ st = .counted .failOpen
        | .error _ => st = .acquired) .acquired := by
  refine Routine.Obeys.bind (fun outcome st => st = .acquired
    ∧ ∀ o, outcome = .ok o → o = .allowed ∨ o = .failOpen) ?_ ?_ ?_
  · refine Routine.Obeys.catching (fun outcome st => st = .acquired
      ∧ ∀ o, outcome = .ok o → o = .allowed) ?_ ?_ ?_ ?_
    · refine Routine.Obeys.bind (fun _ st => st = .acquired) ?_ ?_ ?_
      · unfold Cache.set
        by_cases fit : (Window.record timestamps).integersFit = true
        · simp only [fit]
          exact aside_obeys (by simp) rfl fun reply => by cases reply <;> rfl
        · simp only [fit]
          exact Routine.obeys_throw.2 rfl
      · rintro _ _ rfl
        exact ⟨rfl, fun _ h => by cases h; rfl⟩
      · rintro f _ rfl
        exact ⟨rfl, fun _ h => by cases h⟩
    · rintro outcome _ ⟨rfl, allowed⟩
      exact ⟨rfl, fun o h => .inl (allowed o h)⟩
    · rintro f _ ⟨rfl, -⟩ handled
      exact log_obeys (by simp) ⟨rfl, fun _ h => by cases h; exact .inr rfl⟩
    · rintro f _ ⟨rfl, -⟩ passed
      exact ⟨rfl, fun _ h => by cases h⟩
  · rintro outcome _ ⟨rfl, kinds⟩
    rcases kinds outcome rfl with rfl | rfl
    · exact fun _ _ _ => ⟨_, .count (by decide), .inl rfl⟩
    · exact fun _ _ _ => ⟨_, .count (by decide), .inr rfl⟩
  · rintro f _ ⟨rfl, -⟩
    rfl

/-- How the section under the lock ends: with an outcome counted, and yes when that is that the cap
    was reached, or with a failure and none. -/
inductive SectionEnds : Except Failure Bool → Progress → Prop where
  | counted (outcome : AttemptOutcome) (kept : outcome ≠ .cleared) :
      SectionEnds (.ok (decide (outcome = .rateLimited))) (.counted outcome)
  | failed (f : Failure) : SectionEnds (.error f) .acquired

theorem checkAndRecord_obeys {l : Limiter} {key : String} {handle : LockHandle} :
    (l.checkAndRecord key handle).Obeys (protocol lock o.retries pause) task SectionEnds
      .acquired := by
  refine aside_obeys (by simp) rfl fun reading => ?_
  cases reading with
  | error f => exact .failed f
  | ok now =>
    refine Routine.Obeys.bind _ storedRecord_obeys ?_ ?_
    · rintro stored _ rfl
      refine Routine.obeys_ofExcept_bind (fun recent _ => ?_) (fun f _ => .failed f)
      by_cases reached : l.capReached recent = true
      · rw [if_pos reached]
        refine log_obeys (by simp) fun _ _ _ => ⟨_, .count (by decide), ?_⟩
        exact .counted .rateLimited (by decide)
      · rw [if_neg reached]
        refine aside_obeys (by simp) rfl fun reading => ?_
        cases reading with
        | error f => exact .failed f
        | ok later =>
          show Routine.Obeys _ _ _ (if (millisBetween handle.acquiredAt later).reaches handle.ttl
            then _ else _) _
          split
          · refine log_obeys (by simp) fun _ _ _ => ⟨_, .count (by decide), ?_⟩
            exact .counted .failOpen (by decide)
          · refine Routine.Obeys.bind _ writeRecord_obeys ?_ ?_
            · rintro _ st (rfl | rfl)
              · exact .counted .allowed (by decide)
              · exact .counted .failOpen (by decide)
            · rintro f _ rfl
              exact .failed f
    · rintro f _ rfl
      exact .failed f

theorem release_obeys {handle : LockHandle} {stage : Progress} (begun : stage ≠ .delayed) :
    (Lock.release handle).Obeys (protocol lock o.retries pause) task
      (fun outcome st => match outcome with
        | .ok _ => st = stage
        | .error _ => st = .broken) stage := by
  refine Routine.Obeys.catching (fun outcome st => match outcome with
    | .ok _ => st = stage
    | .error f => f.isStoreError = true ∧ st = stage ∨ f.isStoreError = false ∧ st = .broken)
    ?_ ?_ ?_ ?_
  · intro time action reply
    cases reply with
    | ok reply => exact ⟨stage, .aside begun rfl, rfl⟩
    | error f =>
      cases handled : f.isStoreError with
      | true => exact ⟨stage, .aside begun rfl, .inl ⟨handled, rfl⟩⟩
      | false => exact ⟨.broken, .upset (by simp [Event.upsets, handled]), .inr ⟨handled, rfl⟩⟩
  · rintro b _ rfl
    rfl
  · rintro f st (⟨-, rfl⟩ | ⟨other, -⟩) handled
    · exact log_obeys begun rfl
    · rw [other] at handled
      cases handled
  · rintro f st (⟨handled, -⟩ | ⟨-, rfl⟩) passed
    · rw [handled] at passed
      cases passed
    · rfl

/-- How a record call ends that does not fail: it gave up, or it counted an outcome. -/
def Ends (outcome : Except Failure Bool) (stage : Progress) : Prop :=
  ∀ b, outcome = .ok b → stage = .broken ∨ stage = .gaveUp ∧ b = false
    ∨ ∃ o, o ≠ .cleared ∧ stage = .counted o ∧ b = decide (o = .rateLimited)

/-- A record call obeys. -/
theorem recordFailure_obeys {l : Limiter} {world subject : String}
    (slept : pauseMillis? l.config.lock.retryDelay = some pause)
    (retries : 0 ≤ l.config.lock.retries) :
    (l.recordFailure world subject).Obeys
      (protocol (lockKey world subject) l.config.lock.retries pause) task Ends (.ready 0) := by
  refine Routine.Obeys.catching (fun outcome st => match outcome with
    | .ok b => st = .broken ∨ ∃ o, o ≠ .cleared ∧ st = .counted o ∧ b = decide (o = .rateLimited)
    | .error _ => st = .broken ∨ st = .acquired
      ∨ ∃ n : Nat, (n : Int) = l.config.lock.retries ∧ st = .refused n) ?_ ?_ ?_ ?_
  · refine Routine.Obeys.bind _ (acquire_obeys slept retries) ?_ ?_
    · rintro handle _ (_ | _ | _)
      refine Routine.Obeys.ending _ checkAndRecord_obeys ?_
      rintro outcome st ends
      have begun : st ≠ .delayed := by
        rintro rfl
        cases ends
      refine (release_obeys begun).mono fun released st' h => ?_
      cases released with
      | error f => exact .inl h
      | ok b =>
        cases h
        cases ends with
        | counted _ kept => exact .inr ⟨_, kept, rfl, rfl⟩
        | failed f => exact .inr (.inl rfl)
    · rintro f st (_ | ⟨_, last⟩ | _)
      · exact .inr (.inl rfl)
      · exact .inr (.inr ⟨_, last, rfl⟩)
      · exact .inl rfl
  · rintro b st h _ ⟨⟩
    rcases h with broken | counted
    · exact .inl broken
    · exact .inr (.inr counted)
  · rintro f st h caught
    rcases h with rfl | rfl | ⟨n, last, rfl⟩
    · exact log_obeys (by simp) fun _ _ _ => ⟨_, .late, fun b _ => .inl rfl⟩
    · refine log_obeys (by simp) fun _ _ _ => ⟨_, .count (o := .failOpen) (by decide), ?_⟩
      rintro b ⟨⟩
      exact .inr (.inr ⟨.failOpen, by decide, rfl, by decide⟩)
    · refine log_obeys (by simp) fun _ _ _ => ⟨_, .giveUp last, ?_⟩
      rintro b ⟨⟩
      exact .inr (.inl ⟨rfl, rfl⟩)
  · rintro f st _ _ b ⟨⟩

end

end Progress

end Turnstile

import Turnstile.Proofs.Limiter.Stages
import Turnstile.Proofs.Run.Routine

set_option autoImplicit false

/-! # The calls obey

Each call on the limiter, and the guard's check, does only what `Site.Step` lists, and the stage
that it ends at tells its result. -/

namespace Turnstile

namespace Site

variable {p : Site} {task : Nat} {stage : Stage} {α : Type}

/-! ## Logging and counting -/

theorem log_obeys {ends : Except Failure α → Stage → Prop} {level : LogLevel} {logger : Logger}
    {message : String} {r : Routine α} (h : r.Obeys p.protocol task ends stage) :
    (Routine.log level logger message >>= fun _ => r).Obeys p.protocol task ends stage :=
  fun _ _ _ => ⟨stage, .log, h⟩

theorem count_obeys {ends : Except Failure α → Stage → Prop} {outcome : AttemptOutcome}
    (other : outcome ≠ .allowed) {r : Routine α} (h : r.Obeys p.protocol task ends stage) :
    (Routine.count outcome >>= fun _ => r).Obeys p.protocol task ends stage :=
  fun _ _ _ => ⟨stage, .count other, h⟩

/-! ## Looking without a lock -/

/-- A read of the record goes where each reply leads. -/
theorem get_obeys {next : Except Failure Json → Stage}
    (h : ∀ time action reply,
      p.Step stage ⟨time, task, .command (.get p.key), action, reply⟩ (next reply)) :
    (Cache.get p.key).Obeys p.protocol task
      (fun outcome st => ∃ reply : Except Failure Json,
        outcome = reply.bind Cache.valueOf ∧ st = next reply) stage := by
  refine Routine.Obeys.bind (fun reply st => st = next reply)
    (fun time action reply => ⟨_, h time action reply, rfl⟩) ?_ ?_
  · rintro reply _ rfl
    exact Routine.obeys_ofExcept.2 ⟨.ok reply, rfl, rfl⟩
  · rintro f _ rfl
    exact ⟨.error f, rfl, rfl⟩

/-- How a look ends. -/
inductive LookEnds : Except Failure Bool → Stage → Prop where
  | weighed (limited : Bool) : LookEnds (.ok limited) (.weighed limited)
  | failed {f : Failure} (cancelled : f.isCancellation) : LookEnds (.error f) (.failed f)

theorem isLimited_obeys (looks : p.looks) :
    (p.limiter.isLimited p.world p.subject).Obeys p.protocol task LookEnds .idle := by
  -- Before failures are handled, one leaves the stage `unseen`.
  refine Routine.Obeys.catching (fun outcome st =>
    (∀ b, outcome = .ok b → st = .weighed b) ∧ ∀ f, outcome = .error f → st = .unseen f) ?_ ?_ ?_ ?_
  · refine Routine.Obeys.bind _ (get_obeys fun _ _ _ => .look looks) ?_ ?_
    · rintro value _ ⟨reply, hv, rfl⟩
      have hs : seen reply = .looked value := by rw [seen, ← hv]
      rw [hs]
      refine Routine.Obeys.bind (fun reading st => st = p.weigh value reading)
        (fun _ _ reading => ⟨_, .weigh, rfl⟩) ?_ ?_
      · rintro now _ rfl
        refine Routine.obeys_ofExcept_bind (fun recent hr => ?_) (fun e hr => ?_)
        · have hw : p.weigh value (.ok now) = .weighed (p.limiter.capReached recent) := by
            simp [weigh, Except.bind, hr]
          simp [Routine.obeys_pure, hw]
        · have hw : p.weigh value (.ok now) = .unseen e := by simp [weigh, Except.bind, hr]
          simp [hw]
      · rintro f _ rfl
        simp [weigh, Except.bind]
    · rintro f _ ⟨reply, hf, rfl⟩
      have hs : seen reply = .unseen f := by rw [seen, ← hf]
      simp [hs]
  · rintro b st ⟨h, -⟩
    rw [h b rfl]
    exact .weighed b
  · rintro f st ⟨-, h⟩ handled
    have hc : f.isCancellation = false := by simpa using handled
    rw [h f rfl, Stage.unseen, hc]
    exact log_obeys (.weighed false)
  · rintro f st ⟨-, h⟩ passed
    have hc : f.isCancellation = true := by simpa using passed
    rw [h f rfl, Stage.unseen, hc]
    exact .failed hc

/-! ## Acquiring the lock -/

/-- How the acquisition of the lock ends. -/
inductive AcquireEnds (p : Site) : Except Failure LockHandle → Stage → Prop where
  | acquired (hold : Hold) (acquired : Binary64) :
      AcquireEnds p (.ok ⟨p.lock, tokenText hold.token, p.ttl, acquired⟩)
        (.inside hold (.begun acquired))
  | unavailable {f : Failure} (other : f.isCancellation = false) (token : Nat) (again : Bool)
      (tried : 0 ≤ p.limiter.config.lock.retries → again) :
      AcquireEnds p (.error f) (.trying token again)
  | failed (f : Failure) : AcquireEnds p (.error f) (.failed f)

theorem pause_obeys {token : Nat} {ms : Int} :
    (Lock.pause ms).Obeys p.protocol task
      (fun outcome st => st = .trying token true
        ∧ ∀ f, outcome = .error f → f.isCancellation = false) (.trying token true) := by
  rw [Lock.pause]
  split
  · exact fun _ _ _ => ⟨_, .pause, rfl, fun f h => nomatch h⟩
  · refine Routine.obeys_throw.2 ⟨rfl, ?_⟩
    rintro f ⟨⟩
    rfl

theorem tries_obeys {token : Nat} (left made : Nat) (cause : Option (ErrorClass × String))
    (some : 0 ≤ p.limiter.config.lock.retries → left + made ≠ 0) :
    (Lock.tries p.lock (tokenText token) p.limiter.config.lock left made cause).Obeys p.protocol
      task (AcquireEnds p) (.trying token (made ≠ 0)) := by
  -- The stage tells whether a try was made, which is when a pause comes before the next one.
  induction left generalizing made cause with
  | zero =>
    rw [Lock.tries]
    refine log_obeys (.unavailable rfl token _ fun retries => decide_eq_true ?_)
    have := some retries
    omega
  | succ left ih =>
    have again : decide (made + 1 ≠ 0) = true := by simp
    have retry := fun cause => ih (made + 1) cause fun _ => by omega
    rw [again] at retry
    rw [Lock.tries]
    refine Routine.Obeys.first (fun outcome st => st = .trying token (made ≠ 0)
      ∧ ∀ f, outcome = .error f → f.isCancellation = false ∧ made ≠ 0) ?_ ?_ ?_ ?_
    · intro hmade
      rw [decide_eq_true hmade]
      exact pause_obeys.mono fun outcome st h => ⟨h.1, fun f hf => ⟨h.2 f hf, hmade⟩⟩
    · exact fun _ => ⟨rfl, fun f h => nomatch h⟩
    · rintro _ ⟨rfl, -⟩
      refine Routine.Obeys.observe (fun reply st => ∃ time, st = tried token time reply)
        (fun time _ reply => ⟨_, .contend, time, rfl⟩) ?_
      rintro (f | reply) _ ⟨time, rfl⟩
      · by_cases hf : f.isStoreError = true
        · simp only [tried, hf, if_true]
          exact log_obeys (retry _)
        · simp only [tried, hf]
          exact .failed f
      · by_cases ht : reply.truthy = true
        · simp only [tried, ht, if_true]
          refine Routine.Obeys.bind (fun reading st => st = handled ⟨token, time⟩ reading)
            (fun _ _ reading => ⟨_, .handle, rfl⟩) ?_ ?_
          · rintro acquired _ rfl
            exact .acquired ⟨token, time⟩ acquired
          · rintro f _ rfl
            exact .failed f
        · simp only [tried, ht]
          exact retry _
    · rintro f _ ⟨rfl, hf⟩
      exact .unavailable (hf f rfl).1 token _ fun _ => decide_eq_true (hf f rfl).2

theorem acquire_obeys (may : p.records) (isOpen : stage.IsOpen) :
    (Lock.acquire p.lock p.limiter.config.lock).Obeys p.protocol task (AcquireEnds p) stage :=
  fun _ _ token => ⟨.trying token false, .draw may isOpen, tries_obeys _ _ _ fun _ => by omega⟩

/-! ## Under the lock -/

theorem storedRecord_obeys {hold : Hold} {acquired : Binary64} {now : Int} :
    (Limiter.storedRecord p.key).Obeys p.protocol task
      (fun outcome st => ∃ reply, outcome = stored reply
        ∧ st = .inside hold (p.judge acquired now reply))
      (.inside hold (.timed acquired now)) := by
  refine Routine.Obeys.catching _ (get_obeys fun _ _ _ => .judge) ?_ ?_ ?_
  · rintro value _ ⟨reply, hv, rfl⟩
    exact ⟨reply, by rw [stored, ← hv], rfl⟩
  · rintro f _ ⟨reply, hf, rfl⟩ handled
    exact log_obeys ⟨reply, by simp only [stored, ← hf, handled, if_true], rfl⟩
  · rintro f _ ⟨reply, hf, rfl⟩ passed
    exact ⟨reply, by simp only [stored, ← hf, passed]; rfl, rfl⟩

theorem set_obeys {hold : Hold} {timestamps : List Int}
    (fit : (Window.record timestamps).integersFit) :
    (Cache.set p.key (Window.record timestamps) p.keep).Obeys p.protocol task
      (fun outcome st => ∃ reply, outcome = reply.map (fun _ => ())
        ∧ st = .inside hold (kept reply)) (.inside hold (.ready timestamps)) := by
  have h : Cache.set p.key (Window.record timestamps) p.keep
      = Routine.command (.set p.key ((Window.record timestamps).write .stored) p.keep)
        >>= fun _ => pure () := by
    simp [Cache.set, fit]
  rw [h]
  refine Routine.Obeys.bind (fun reply (st : Stage) => st = .inside hold (kept reply))
    (fun _ _ reply => ⟨_, .write, rfl⟩) ?_ ?_
  · rintro reply _ rfl
    exact ⟨.ok reply, rfl, rfl⟩
  · rintro f _ rfl
    exact ⟨.error f, rfl, rfl⟩

/-- How the attempt to write a record ends, before its outcome is counted. -/
inductive WriteEnds (hold : Hold) : Except Failure AttemptOutcome → Stage → Prop where
  | allowed : WriteEnds hold (.ok .allowed) (.inside hold .written)
  | failOpen : WriteEnds hold (.ok .failOpen) (.inside hold (.closing (.ok false)))
  | failed (f : Failure) : WriteEnds hold (.error f) (.inside hold (.closing (.error f)))

theorem writeRecord_obeys {hold : Hold} {timestamps : List Int} :
    (p.limiter.writeRecord p.key timestamps).Obeys p.protocol task
      (fun outcome st => st = .inside hold (.closing (outcome.map fun _ => false)))
      (.inside hold (if (Window.record timestamps).integersFit then .ready timestamps
        else .closing (.error .integerTooLong))) := by
  refine Routine.Obeys.bind (WriteEnds hold) ?_ ?_ ?_
  · by_cases fit : (Window.record timestamps).integersFit = true
    · rw [if_pos fit]
      refine Routine.Obeys.catching (fun outcome st => ∃ reply : Except Failure Json,
          outcome = reply.map (fun _ => .allowed) ∧ st = .inside hold (kept reply)) ?_ ?_ ?_ ?_
      · refine Routine.Obeys.bind _ (set_obeys fit) ?_ ?_
        · rintro _ _ ⟨reply | reply, h, rfl⟩
          · cases h
          · exact ⟨.ok reply, rfl, rfl⟩
        · rintro f _ ⟨reply | reply, h, rfl⟩
          · cases h
            exact ⟨.error f, rfl, rfl⟩
          · cases h
      · rintro outcome _ ⟨reply | reply, h, rfl⟩
        · cases h
        · cases h
          exact .allowed
      · rintro f _ ⟨reply | reply, h, rfl⟩ handled
        · cases h
          simp only [kept, handled, if_true]
          exact log_obeys .failOpen
        · cases h
      · rintro f _ ⟨reply | reply, h, rfl⟩ passed
        · cases h
          simp only [kept, passed]
          exact .failed f
        · cases h
    · -- Nothing is asked of the store for a record that cannot be written.
      rw [if_neg fit]
      refine Routine.Obeys.catching (fun outcome st => outcome = .error .integerTooLong
        ∧ st = .inside hold (.closing (.error .integerTooLong))) ?_ ?_ ?_ ?_
      · simp only [Cache.set, fit, Bool.not_false, if_true]
        exact ⟨rfl, rfl⟩
      · rintro outcome _ ⟨⟨⟩, -⟩
      · rintro f _ ⟨⟨⟩, -⟩ handled
        cases handled
      · rintro f _ ⟨⟨⟩, rfl⟩ -
        exact .failed .integerTooLong
  · rintro outcome _ (_ | _)
    · exact fun _ _ _ => ⟨_, .allow, rfl⟩
    · exact fun _ _ _ => ⟨_, .count (by decide), rfl⟩
  · rintro f _ (_ | _ | _)
    rfl

theorem expired_obeys {hold : Hold} {acquired : Binary64} {now : Int} {recent : List Int}
    {handle : LockHandle} :
    (Lock.expired handle).Obeys p.protocol task
      (fun outcome st => ∃ reading : Except Failure Binary64,
        outcome = reading.map
            (fun later => (millisBetween handle.acquiredAt later).reaches handle.ttl)
          ∧ st = .inside hold (p.prepare acquired (recent ++ [now]) reading))
      (.inside hold (.room acquired now recent)) := by
  refine Routine.Obeys.bind (fun reading (st : Stage) =>
    st = .inside hold (p.prepare acquired (recent ++ [now]) reading))
    (fun _ _ reading => ⟨_, .prepare, rfl⟩) ?_ ?_
  · rintro later _ rfl
    exact ⟨.ok later, rfl, rfl⟩
  · rintro f _ rfl
    exact ⟨.error f, rfl, rfl⟩

theorem checkAndRecord_obeys {hold : Hold} {acquired : Binary64} :
    (p.limiter.checkAndRecord p.key ⟨p.lock, tokenText hold.token, p.ttl, acquired⟩).Obeys
      p.protocol task (fun outcome st => st = .inside hold (.closing outcome))
      (.inside hold (.begun acquired)) := by
  refine Routine.Obeys.bind (fun reading (st : Stage) => st = .inside hold (timed acquired reading))
    (fun _ _ reading => ⟨_, .time, rfl⟩) ?_ ?_
  · rintro now _ rfl
    refine Routine.Obeys.bind _ storedRecord_obeys ?_ ?_
    · rintro value _ ⟨reply, hv, rfl⟩
      refine Routine.obeys_ofExcept_bind (fun recent hr => ?_) (fun e hr => ?_)
      · have hj : p.judge acquired now reply = if p.limiter.capReached recent
            then .closing (.ok true) else .room acquired now recent := by
          simp [judge, ← hv, Except.bind, hr]
        rw [hj]
        by_cases hc : p.limiter.capReached recent = true
        · rw [if_pos hc, if_pos hc]
          exact log_obeys (count_obeys (by decide) rfl)
        · rw [if_neg hc, if_neg hc]
          refine Routine.Obeys.bind _ expired_obeys ?_ ?_
          · rintro expired _ ⟨reading | later, h, rfl⟩
            · cases h
            · simp only [Except.map, Except.ok.injEq] at h
              by_cases he : (millisBetween acquired later).reaches p.ttl = true
              · rw [h, if_pos he, prepare, if_pos he]
                exact log_obeys (count_obeys (by decide) rfl)
              · rw [h, if_neg he, prepare, if_neg he]
                refine Routine.Obeys.bind _ writeRecord_obeys ?_ ?_
                · rintro _ _ rfl
                  rfl
                · rintro f _ rfl
                  rfl
          · rintro f _ ⟨reading | later, h, rfl⟩
            · cases h
              rfl
            · cases h
      · simp [judge, ← hv, Except.bind, hr]
    · rintro f _ ⟨reply, hf, rfl⟩
      simp [judge, ← hf, Except.bind]
  · rintro f _ rfl
    rfl

/-! ## The locked section as a whole -/

theorem release_obeys {hold : Hold} {outcome : Except Failure Bool} {acquired : Binary64} :
    (Lock.release ⟨p.lock, tokenText hold.token, p.ttl, acquired⟩).Obeys p.protocol task
      (fun x st => st = .finished (x.bind fun _ => outcome)) (.inside hold (.closing outcome)) := by
  refine Routine.Obeys.catching (fun x st => ∃ reply : Except Failure Json,
    x = reply.map Json.truthy ∧ st = .finished (released outcome reply)) ?_ ?_ ?_ ?_
  · refine Routine.Obeys.bind (fun reply (st : Stage) => st = .finished (released outcome reply))
      (fun _ _ reply => ⟨_, .release, rfl⟩) ?_ ?_
    · rintro reply _ rfl
      exact ⟨.ok reply, rfl, rfl⟩
    · rintro f _ rfl
      exact ⟨.error f, rfl, rfl⟩
  · rintro b _ ⟨reply | reply, h, rfl⟩
    · cases h
    · rfl
  · rintro f _ ⟨reply | reply, h, rfl⟩ handled
    · cases h
      simp only [released, handled, if_true]
      exact log_obeys rfl
    · cases h
  · rintro f _ ⟨reply | reply, h, rfl⟩ passed
    · cases h
      simp [released, passed, Except.bind]
    · cases h

/-- What a call comes to that had the lock: an ordinary failure counts as no. -/
def settle : Except Failure Bool → Except Failure Bool
  | .ok limited => .ok limited
  | .error f => if f.isCancellation then .error f else .ok false

/-- How the recording of an attempt ends. -/
inductive RecordEnds : Except Failure Bool → Stage → Prop where
  | finished (outcome : Except Failure Bool) : RecordEnds (settle outcome) (.finished outcome)
  | failed (f : Failure) : RecordEnds (settle (.error f)) (.failed f)
  | trying (token : Nat) (again : Bool) : RecordEnds (.ok false) (.trying token again)

/-- With a number of tries that is not negative, a call does not end before it has tried. -/
theorem recordFailure_obeys (may : p.records) (isOpen : stage.IsOpen) :
    (p.limiter.recordFailure p.world p.subject).Obeys p.protocol task
      (fun outcome st => RecordEnds outcome st
        ∧ (0 ≤ p.limiter.config.lock.retries → ∀ n, st ≠ .trying n false)) stage := by
  refine Routine.Obeys.catching (fun outcome st => st = .finished outcome
    ∨ ∃ f, outcome = .error f ∧ (st = .failed f ∨ f.isCancellation = false
      ∧ ∃ n again, st = .trying n again ∧ (0 ≤ p.limiter.config.lock.retries → again = true)))
    ?_ ?_ ?_ ?_
  · refine Routine.Obeys.bind _ (acquire_obeys may isOpen) ?_ ?_
    · rintro _ _ ⟨hold, acquired⟩
      refine Routine.Obeys.ending _ checkAndRecord_obeys ?_
      rintro outcome _ rfl
      exact release_obeys.mono fun x st h => .inl h
    · rintro f _ (_ | ⟨other, token, again, tried⟩ | _)
      · exact .inr ⟨f, rfl, .inr ⟨other, token, again, rfl, tried⟩⟩
      · exact .inr ⟨f, rfl, .inl rfl⟩
  · rintro limited _ (rfl | ⟨f, h, -⟩)
    · exact ⟨.finished (.ok limited), fun _ n h => by cases h⟩
    · cases h
  · rintro f st h handled
    have hc : f.isCancellation = false := by simpa using handled
    have hs : settle (.error f) = .ok false := by simp [settle, hc]
    refine log_obeys (count_obeys (by decide) ?_)
    have finished := RecordEnds.finished (.error f)
    have failed := RecordEnds.failed f
    rw [hs] at finished failed
    rcases h with rfl | ⟨_, ⟨⟩, rfl | ⟨-, n, again, rfl, tried⟩⟩
    · exact ⟨finished, fun _ n h => by cases h⟩
    · exact ⟨failed, fun _ n h => by cases h⟩
    · refine ⟨.trying n again, fun retries m h => ?_⟩
      cases h
      cases tried retries
  · rintro f st h passed
    have hc : f.isCancellation = true := by simpa using passed
    have hs : settle (.error f) = .error f := by simp [settle, hc]
    have finished := RecordEnds.finished (.error f)
    have failed := RecordEnds.failed f
    rw [hs] at finished failed
    rcases h with rfl | ⟨_, ⟨⟩, rfl | ⟨hf, -⟩⟩
    · exact ⟨finished, fun _ n h => by cases h⟩
    · exact ⟨failed, fun _ n h => by cases h⟩
    · rw [hc] at hf
      cases hf

/-! ## The guard -/

/-- How the dropping of a record ends. -/
inductive DropEnds : Except Failure Unit → Stage → Prop where
  | dropped : DropEnds (.ok ()) .dropped
  | failed (f : Failure) : DropEnds (.error f) (.failed f)

theorem clear_obeys (may : p.drops) (isOpen : stage.IsOpen) :
    (Limiter.clear p.world p.subject).Obeys p.protocol task DropEnds stage := by
  refine Routine.Obeys.bind (fun outcome st => DropEnds (outcome.map fun _ => ()) st) ?_ ?_ ?_
  · refine Routine.Obeys.catching (fun outcome st => ∃ reply : Except Failure Json,
      outcome = reply.map (fun _ => true) ∧ st = dropped reply) ?_ ?_ ?_ ?_
    · refine Routine.Obeys.bind (fun outcome (st : Stage) => ∃ reply : Except Failure Json,
        outcome = reply.map (fun _ => ()) ∧ st = dropped reply) ?_ ?_ ?_
      · refine Routine.Obeys.bind (fun reply (st : Stage) => st = dropped reply)
          (fun _ _ reply => ⟨_, .drop may isOpen, rfl⟩) ?_ ?_
        · rintro reply _ rfl
          exact ⟨.ok reply, rfl, rfl⟩
        · rintro f _ rfl
          exact ⟨.error f, rfl, rfl⟩
      · rintro _ _ ⟨reply | reply, h, rfl⟩
        · cases h
        · exact ⟨.ok reply, rfl, rfl⟩
      · rintro f _ ⟨reply | reply, h, rfl⟩
        · cases h
          exact ⟨.error f, rfl, rfl⟩
        · cases h
    · rintro b _ ⟨reply | reply, h, rfl⟩
      · cases h
      · exact .dropped
    · rintro f _ ⟨reply | reply, h, rfl⟩ handled
      · cases h
        simp only [dropped, handled, if_true]
        exact log_obeys .dropped
      · cases h
    · rintro f _ ⟨reply | reply, h, rfl⟩ passed
      · cases h
        simp only [dropped, passed]
        exact .failed f
      · cases h
  · rintro b st h
    cases b with
    | true => exact fun _ _ _ => ⟨_, .count (by decide), h⟩
    | false => exact h
  · rintro f st h
    exact h

/-- Where a check ends: one that turned the subject away, and one that matched. -/
structure CheckEnds (outcome : Except Failure Bool) (stage : Stage) : Prop where
  refused : ∀ world, outcome = .error (.rateLimited world) →
    stage = .weighed true ∨ stage = .finished (.ok true) ∨ stage = .failed (.rateLimited world)
  matched : outcome = .ok true → stage = .dropped

theorem refuse_obeys {requestId : String} {ends : Except Failure Bool → Stage → Prop}
    (h : ends (.error (.rateLimited p.world)) stage) :
    (Guard.refuse p.world requestId).Obeys p.protocol task ends stage :=
  log_obeys h

/-- Only a call that was over its cap comes to yes. -/
theorem eq_of_settle {outcome : Except Failure Bool} (h : settle outcome = .ok true) :
    outcome = .ok true := by
  cases outcome with
  | ok b => exact h
  | error f =>
    rw [settle] at h
    split at h <;> cases h

theorem isCancellation_of_settle {outcome : Except Failure Bool} {f : Failure}
    (h : settle outcome = .error f) : f.isCancellation := by
  cases outcome with
  | ok b => cases h
  | error g =>
    by_cases hg : g.isCancellation = true
    · simp only [settle, hg, if_true, Except.error.injEq] at h
      rw [← h]
      exact hg
    · simp [settle, hg] at h

theorem matching_error {plain hashed : Json} {f : Failure}
    (h : Guard.matching plain hashed = .error f) : f = .wrongShape := by
  unfold Guard.matching at h
  split at h
  · cases h
  · split at h
    · cases h
    · cases h
      rfl

theorem check_obeys (looks : p.looks) (records : p.records) (drops : p.drops) {requestId : String}
    {plain hashed : Json} :
    (Guard.check p.limiter requestId p.world p.subject plain hashed).Obeys p.protocol task CheckEnds
      .idle := by
  refine Routine.Obeys.bind _ (isLimited_obeys looks) ?_ ?_
  · rintro limited _ ⟨_ | _⟩
    · refine Routine.obeys_ofExcept_bind (fun matched hm => ?_) (fun e hm => ?_)
      · cases matched with
        | true =>
          refine Routine.Obeys.bind _ (clear_obeys drops trivial) ?_ ?_
          · rintro _ st ⟨⟩
            exact log_obeys ⟨fun world h => (nomatch h), fun _ => rfl⟩
          · rintro f st h
            refine ⟨?_, fun h => nomatch h⟩
            rintro world ⟨⟩
            cases h with
            | failed f => exact .inr (.inr rfl)
        | false =>
          refine Routine.Obeys.bind _ (recordFailure_obeys records trivial) ?_ ?_
          · rintro limited st ⟨h, -⟩
            cases limited with
            | true =>
              refine refuse_obeys ⟨fun world _ => .inr (.inl ?_), fun h => nomatch h⟩
              generalize hs : (Except.ok true : Except Failure Bool) = result at h
              cases h with
              | finished outcome => rw [eq_of_settle hs.symm, settle]
              | failed f => cases eq_of_settle hs.symm
              | trying token again => cases hs
            | false => exact log_obeys ⟨fun world h => (nomatch h), fun h => by cases h⟩
          · rintro f st ⟨h, -⟩
            refine ⟨?_, fun h => nomatch h⟩
            rintro world ⟨⟩
            generalize hs : (Except.error (.rateLimited world) : Except Failure Bool) = result at h
            cases h with
            | finished outcome => cases isCancellation_of_settle hs.symm
            | failed f => cases isCancellation_of_settle hs.symm
            | trying token again => cases hs
      · refine ⟨?_, fun h => nomatch h⟩
        rintro world ⟨⟩
        cases matching_error hm
    · exact refuse_obeys ⟨fun world _ => .inl rfl, fun h => nomatch h⟩
  · intro f st h
    refine ⟨fun world hf => ?_, fun h => nomatch h⟩
    cases h with
    | failed cancelled =>
      cases hf
      cases cancelled

end Site

end Turnstile

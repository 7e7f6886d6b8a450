import Turnstile.Proofs.Limiter.Alone

set_option autoImplicit false

/-! # Beyond the monotonic clock

At an instant whose seconds are beyond the range of binary64 numbers the monotonic clock cannot be
read, and then not at any later one either. The entry of a lock may still be set, but no handle is
made for it, so that no lock is acquired (`Site.acquire_timeless`). A record call fails open then:
it says no, and leaves all records as they are (`Site.recordFailure_timeless`). -/

namespace Turnstile

/-- The monotonic clock can be read neither now nor later. -/
def System.Timeless (s : System) : Prop := ∀ t, s.elapsed ≤ t → ¬MonotonicReadable t

/-- Once it has started, the monotonic clock either can be read or never can be again. -/
theorem System.monotonic_or_timeless {s : System} (start : 0 ≤ s.elapsed) :
    MonotonicReadable s.elapsed ∨ s.Timeless := by
  by_cases readable : MonotonicReadable s.elapsed
  · exact .inl readable
  · exact .inr fun t later further => readable (further.of_le start later)

theorem System.Timeless.not_monotonic {s : System} (timeless : s.Timeless) :
    ¬MonotonicReadable s.elapsed :=
  timeless s.elapsed (Int.le_refl _)

/-- Time that passes does not bring the clock back. -/
theorem System.Timeless.later {s s' : System} (timeless : s.Timeless)
    (later : s.elapsed ≤ s'.elapsed) : s'.Timeless :=
  fun t ht => timeless t (Int.le_trans later ht)

/-! ## Without a handle -/

/-- A record call has got to where it has no handle, and if it has failed then in an ordinary way.
    -/
def Stage.Unhandled : Stage → Prop
  | .idle | .trying .. | .inside _ .granted => True
  | .failed f => f.isCancellation = false
  | _ => False

namespace Site

variable {p : Site}

/-- A record call that runs alone has no handle yet, and from `w` to `v` nothing has changed but the
    entry of its lock and the time. -/
structure Adrift (p : Site) (w v : World) (stage : Stage) : Prop where
  epoch : v.epoch = w.epoch
  skews : v.skews = w.skews
  later : w.now ≤ v.now
  others : ∀ k, k ≠ p.lock → ∀ t, v.store.get? t k = w.store.get? t k
  unhandled : stage.Unhandled

/-- A step of a record call that runs alone and cannot read the monotonic clock. -/
theorem Adrift.step {w v : World} {stage stage' : Stage} {e : Event}
    (only : p.looks = false ∧ p.drops = false)
    (timeless : ∀ t, w.now ≤ t → ¬MonotonicReadable t) (adrift : p.Adrift w v stage)
    (admits : v.Admits e) (perform : e.action = .perform) (step : p.Step stage e stage') :
    p.Adrift w (v.add e) stage' := by
  obtain ⟨epoch, skews, later, others, unhandled⟩ := adrift
  cases step with
  | log | count => exact ⟨epoch, skews, later, others, unhandled⟩
  | draw | pause => exact ⟨epoch, skews, later, others, trivial⟩
  | look may =>
    rw [only.1] at may
    cases may
  | drop may =>
    rw [only.2] at may
    cases may
  | @contend token again time task action reply =>
    cases perform
    have frame : ∀ k, k ≠ p.lock → ∀ t, (v.add ⟨time, task,
        .command (.setIfAbsent p.lock (tokenText token) p.ttl), .perform, reply⟩).store.get? t k
          = w.store.get? t k := by
      intro k apart t
      rw [← others k apart t]
      refine World.get?_add_of_ne v _ k ?_ t
      rintro c ⟨⟩ same
      exact apart (Option.some.inj same).symm
    refine ⟨epoch, skews, later, frame, ?_⟩
    have answered : reply = (Command.perform v.now v.store
        (.setIfAbsent p.lock (tokenText token) p.ttl)).2 := admits.answer
    cases reply with
    | ok reply =>
      simp only [tried]
      split <;> trivial
    | error f =>
      rw [Command.eq_invalidExpiry (Prod.ext rfl answered.symm)]
      trivial
  | @handle hold time task action reading =>
    refine ⟨epoch, skews, later, others, ?_⟩
    cases reading with
    | ok x =>
      have now : time = v.now := admits.time
      exact absurd ⟨x, now ▸ admits.clockSeconds_eq⟩ (timeless _ later)
    | error f =>
      obtain ⟨reason, rfl⟩ := admits.reading_error
      rfl
  | _ => exact unhandled.elim

/-- **No lock is acquired.** Where no fault waits and the monotonic clock cannot be read any more,
    a try for a lock fails in an ordinary way. It changes nothing but the entry of the lock and the
    time. -/
theorem acquire_timeless {s : System} (noFault : s.faults = []) (timeless : s.Timeless) {task : Nat}
    (records : p.records) (only : p.looks = false ∧ p.drops = false) {s' : System}
    {result : Except Failure LockHandle}
    (run : (Lock.acquire p.lock p.limiter.config.lock).run.run task s = (s', result)) :
    s'.faults = [] ∧ p.Adrift (.of s []) (.of s' []) .idle
      ∧ ∃ f, result = .error f ∧ f.isCancellation = false := by
  have pass : ∀ v stage e stage' t, p.Adrift (.of s []) v stage → p.Step stage e stage' →
      e.effect.idles → v.now ≤ t → p.Adrift (.of s []) (v.atTime t) stage := by
    intro v stage e stage' t adrift _ _ later
    exact ⟨adrift.epoch, adrift.skews, Int.le_trans adrift.later later, adrift.others,
      adrift.unhandled⟩
  obtain ⟨stage, h, adrift, ends, noFault'⟩ := Proc.run_invariant
    (fun _ _ _ _ adrift admits perform step => adrift.step only timeless admits perform step)
    pass (@acquire_obeys p task .idle records trivial) noFault (h := [])
    ⟨rfl, rfl, Int.le_refl _, fun _ _ _ => rfl, trivial⟩
  rw [run] at adrift ends noFault'
  obtain ⟨epoch, skews, later, others, unhandled⟩ := adrift
  refine ⟨noFault', ⟨epoch, skews, later, others, trivial⟩, ?_⟩
  generalize hr : (s', result).2 = told at ends
  rw [show result = told from hr]
  cases ends with
  | acquired => exact unhandled.elim
  | unavailable other => exact ⟨_, rfl, other⟩
  | failed f => exact ⟨f, rfl, unhandled⟩

end Site

/-! ## Failing open -/

/-- A record call whose lock is not acquired, for an ordinary reason, says no. What is left to do is
    to note it. -/
theorem Limiter.recordFailure_of_unacquired {l : Limiter} {world subject : String} {task : Nat}
    {s s' : System} {f : Failure}
    (run : (Lock.acquire (lockKey world subject) l.config.lock).run.run task s = (s', .error f))
    (ordinary : f.isCancellation = false) :
    ∃ logs, (l.recordFailure world subject).run.run task s
      = ({ s' with logs := logs, metrics := s'.metrics.countOutcome AttemptOutcome.failOpen.name },
        .ok false) := by
  have tracked : (Lock.holding (lockKey world subject) l.config.lock
      (l.checkAndRecord (attemptsKey world subject))).run.run task s = (s', .error f) := by
    rw [Lock.holding, Routine.run_bind, run]
  have counted : ∀ s : System,
      (Routine.count .failOpen >>= fun _ => (pure false : Routine Bool)).run.run task s
        = ({ s with metrics := s.metrics.countOutcome AttemptOutcome.failOpen.name },
          .ok false) := by
    intro s
    rw [Routine.run_bind, Routine.run_count]
    rfl
  rw [recordFailure, Routine.run_catching_of_error tracked (by simp [ordinary]), Routine.run_bind,
    Routine.run_log]
  exact ⟨_, counted _⟩

/-- **A record call fails open.** Where no fault waits and the monotonic clock cannot be read any
    more, a record call says no, and changes no record. -/
theorem Site.recordFailure_timeless {p : Site} {s : System} (noFault : s.faults = [])
    (timeless : s.Timeless) {task : Nat} (records : p.records)
    (only : p.looks = false ∧ p.drops = false) {s' : System} {result : Except Failure Bool}
    (run : (p.limiter.recordFailure p.world p.subject).run.run task s = (s', result)) :
    result = .ok false ∧ s'.faults = [] ∧ p.Adrift (.of s []) (.of s' []) .idle := by
  generalize tried : (Lock.acquire p.lock p.limiter.config.lock).run.run task s = ended
  obtain ⟨s₁, told⟩ := ended
  obtain ⟨noFault', adrift, f, rfl, ordinary⟩ :=
    p.acquire_timeless noFault timeless records only tried
  obtain ⟨logs, same⟩ := Limiter.recordFailure_of_unacquired tried ordinary
  cases same.symm.trans run
  exact ⟨rfl, noFault', adrift.epoch, adrift.skews, adrift.later, adrift.others, trivial⟩

end Turnstile

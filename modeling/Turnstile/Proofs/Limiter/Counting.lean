import Turnstile.Proofs.Limiter.Agreement
import Turnstile.Proofs.Limiter.Corruption
import Turnstile.Proofs.Limiter.Keys
import Turnstile.Proofs.Limiter.Register
import Turnstile.Proofs.Limiter.Timeless
import Turnstile.Proofs.Run.Only

set_option autoImplicit false

/-! # What a check counts

Where no fault waits, the counters tell what checks have come to: one that matches has counted that
the record was cleared, one that does not match that the attempt is allowed or went uncounted, and
one that turns the subject away has counted nothing, as it does so at the look, before an attempt is
recorded (`Unfaulted.check`). Where both clocks can be read as well, no attempt goes uncounted
(`System.Lists.check`): what is found under the keys of records is nothing but records of timestamps
that were read off the clock. -/

namespace Turnstile

/-- How often an outcome was counted. -/
def System.counted (s : System) (o : AttemptOutcome) : Nat := s.metrics.outcomes.count o.name

theorem System.Still.counted {s s' : System} (still : s.Still s') (o : AttemptOutcome) :
    s'.counted o = s.counted o :=
  congrArg (Tally.count o.name) still.outcomes

/-- From one system to another these outcomes were counted, in some order. -/
def System.Counts (s : System) (outcomes : List AttemptOutcome) (s' : System) : Prop :=
  ∀ o : AttemptOutcome, s'.counted o = s.counted o + outcomes.count o

theorem System.Counts.trans {s s₁ s₂ : System} {first second : List AttemptOutcome}
    (h : s.Counts first s₁) (k : s₁.Counts second s₂) : s.Counts (first ++ second) s₂ := by
  intro o
  rw [k, h, List.count_append, Nat.add_assoc]

theorem System.Still.counts {s s' : System} (still : s.Still s') : s.Counts [] s' :=
  fun o => still.counted o

/-! ## The calls -/

/-- A look only reads and makes notes. -/
theorem Limiter.isLimited_quiet (l : Limiter) (world subject : String) :
    (l.isLimited world subject).Only Effect.IsQuiet := by
  refine .catching ?_ fun f => .bind (.ask trivial) fun _ => .pure _
  refine .bind (.bind (.command trivial) fun _ => .ofExcept _) fun stored => ?_
  exact .bind (.readClock trivial) fun now => .bind (.ofExcept _) fun recent => .pure _

/-- A call that clears a record counts that it did. -/
theorem Limiter.clear_counts (world subject : String) (task : Nat) {s : System}
    (noFault : s.faults = []) :
    s.Counts [.cleared] ((clear world subject).run.run task s).1 := by
  have deleted : ∃ s₁ value, (Routine.command (.delete (attemptsKey world subject))).run.run task s
      = (s₁, .ok value) ∧ s₁.metrics = s.metrics := by
    rw [Routine.run_command _ _ noFault, System.execute, FaultAction.apply, Command.perform]
    cases s.store.get? s.elapsed (attemptsKey world subject) <;> exact ⟨_, _, rfl, rfl⟩
  obtain ⟨s₁, value, deleted, metrics⟩ := deleted
  have removed : (do Cache.remove (attemptsKey world subject); return true : Routine Bool).run.run
      task s = (s₁, .ok true) := by
    rw [Routine.run_bind, Cache.remove, Routine.run_bind, deleted]
    rfl
  rw [clear, Routine.run_bind, Routine.run_catching_of_ok _ _ (congrArg Prod.snd removed), removed]
  show s.Counts [.cleared] ((Routine.count .cleared).run.run task s₁).1
  rw [Routine.run_count]
  intro o
  show (Tally.bump AttemptOutcome.cleared.name s₁.metrics.outcomes).count o.name = _
  rw [metrics, Tally.count_bump, List.count_singleton]
  simp [AttemptOutcome.name_injective.eq_iff, System.counted]

namespace Site

variable {p : Site}

/-- A record call alone comes to an answer, and counts one outcome, which tells the answer. -/
theorem recordFailure_tells (task : Nat) {s : System} (noFault : s.faults = [])
    (records : p.records) :
    ∃ limited o, ((p.limiter.recordFailure p.world p.subject).run.run task s).2 = .ok limited
      ∧ s.Counts [o] ((p.limiter.recordFailure p.world p.subject).run.run task s).1
      ∧ o ≠ .cleared ∧ (limited = true ↔ o = .rateLimited) := by
  obtain ⟨limited, o, returns, counted, other, limits⟩ :=
    p.recordFailure_outcome task noFault records
  have counters := Proc.outcomes_run task (p.limiter.recordFailure p.world p.subject).run (s := s)
    (@recordFailure_obeys p task .idle records trivial).own_doings
  rw [counted] at counters
  exact ⟨limited, o, returns, counters, other, limits⟩

/-- A record call leaves what is under any key but those of its record and of its lock. -/
theorem get?_recordFailure_of_ne (task : Nat) (records : p.records) {k : String}
    (record : k ≠ p.key) (lock : k ≠ p.lock) (s : System) (t : Int) :
    ((p.limiter.recordFailure p.world p.subject).run.run task s).1.store.get? t k
      = s.store.get? t k := by
  refine Proc.Obeys.get?_run (fun stage e stage' step c issues about => ?_)
    (@recordFailure_obeys p task .idle records trivial) s t
  rcases step.key?_eq issues with key | key
  · exact record (Option.some.inj (about.symm.trans key))
  · exact lock (Option.some.inj (about.symm.trans key))

/-! ## The lock is given back -/

/-- Where a record call is that runs alone, in a world that has moved on from `w`: its lock is free,
    or is held as its token. -/
def LockFrom (p : Site) (w v : World) (stage : Stage) : Prop :=
  v.SameTime w ∧ match stage with
    | .idle => v.store.get? w.now p.lock = none
    | .trying _ again => again = false ∧ v.store.get? w.now p.lock = none
    | .inside hold _ => (v.store.get? w.now p.lock).map Entry.value = some (tokenText hold.token)
    | .finished _ => v.store.get? w.now p.lock = none
    | _ => False

/-- A step of a record call that runs alone and can read the monotonic clock. -/
theorem LockFrom.step {w v : World} {acquired : Binary64} {stage stage' : Stage} {e : Event}
    (only : p.looks = false ∧ p.drops = false) (positive : 0 < p.ttl)
    (monotonic : w.monotonic = .ok acquired) (lock : p.LockFrom w v stage) (admits : v.Admits e)
    (perform : e.action = .perform) (step : p.Step stage e stage') :
    p.LockFrom w (v.add e) stage' := by
  have apart : p.key ≠ p.lock := attemptsKey_ne_lockKey p.world p.subject
  obtain ⟨same, held⟩ := lock
  cases step with
  | log | count | time | prepare | allow => exact ⟨same.add _, held⟩
  | look may =>
    rw [only.1] at may
    cases may
  | drop may =>
    rw [only.2] at may
    cases may
  | @draw stage may isOpen =>
    cases stage with
    | idle => exact ⟨same.add _, rfl, held⟩
    | weighed limited => exact held.elim
    | _ => cases isOpen
  | pause => cases held.1
  | @contend token again time task action reply =>
    cases perform
    have put : Command.perform v.now v.store (.setIfAbsent p.lock (tokenText token) p.ttl)
        = (v.store.put p.lock ⟨tokenText token, some (w.now + p.ttl)⟩, .ok (.bool true)) := by
      rw [Command.perform, same.now, held.2, if_neg (Int.not_le.2 positive)]
    have answered : reply = .ok (.bool true) := by
      have answered : reply = (Command.perform v.now v.store
          (.setIfAbsent p.lock (tokenText token) p.ttl)).2 := admits.answer
      rw [answered, put]
    rw [answered]
    refine ⟨same.add _, ?_⟩
    show ((Command.perform v.now v.store
      (.setIfAbsent p.lock (tokenText token) p.ttl)).1.get? w.now p.lock).map Entry.value = _
    have live : Entry.isLive w.now ⟨tokenText token, some (w.now + p.ttl)⟩ := by
      simp only [Entry.isLive, Option.all_some, decide_eq_true_eq]
      omega
    rw [put, Store.get?_put, if_pos rfl, Option.filter_some, if_pos live]
    rfl
  | @handle hold time task action reading =>
    have answered : reading = .ok acquired := by
      rw [← monotonic, ← same.monotonic]
      exact admits.answer
    rw [answered]
    exact ⟨same.add _, held⟩
  | judge | write =>
    refine ⟨same.add _, ?_⟩
    show ((v.add _).store.get? w.now p.lock).map Entry.value = _
    rw [World.get?_add_of_ne v _ p.lock]
    · exact held
    · rintro c ⟨⟩ about
      exact apart (Option.some.inj about)
  | @release hold outcome time task action reply =>
    cases perform
    refine ⟨same.add _, ?_⟩
    obtain ⟨entry, found, text⟩ := Option.map_eq_some_iff.1 held
    show (Command.perform v.now v.store
      (.deleteIfEqual p.lock (tokenText hold.token))).1.get? w.now p.lock = none
    rw [Command.perform, same.now, found]
    simp only [text, if_true]
    rw [Store.get?_erase, if_pos rfl]
  | wait | weigh => exact held.elim

/-- **The lock is given back.** A record call that runs alone and whose lock is free, while the
    monotonic clock can be read, takes no time and leaves the lock free, whatever else comes up. -/
theorem lock_returned {s : System} (noFault : s.faults = []) {task : Nat} (records : p.records)
    (only : p.looks = false ∧ p.drops = false) (free : s.get? p.lock = none) (positive : 0 < p.ttl)
    (readable : MonotonicReadable s.elapsed) {s' : System} {result : Except Failure Bool}
    (run : (p.limiter.recordFailure p.world p.subject).run.run task s = (s', result)) :
    (World.of s' []).SameTime (.of s []) ∧ s'.faults = [] ∧ s'.get? p.lock = none := by
  obtain ⟨acquired, monotonic⟩ := (World.of s []).exists_monotonic readable
  have pass : ∀ v stage e stage' t, p.LockFrom (.of s []) v stage → p.Step stage e stage' →
      e.effect.idles → v.now ≤ t → p.LockFrom (.of s []) (v.atTime t) stage := by
    intro v stage e stage' t lock step idles _
    cases step with
    | wait => exact lock.2.elim
    | pause => cases lock.2.1
    | _ => cases idles
  obtain ⟨stage, h, ⟨same, lock⟩, ⟨ends, -⟩, noFault'⟩ := Proc.run_invariant
    (fun _ _ _ _ lock admits perform step => lock.step only positive monotonic admits perform step)
    pass (@recordFailure_obeys p task .idle records trivial) noFault (h := [])
    ⟨⟨rfl, rfl, rfl⟩, free⟩
  rw [run] at same lock ends noFault'
  have elapsed : s'.elapsed = s.elapsed := same.now
  refine ⟨⟨same.now, same.epoch, same.skews⟩, noFault', ?_⟩
  rw [System.get?, elapsed]
  generalize hr : (s', result).2 = told at ends
  cases ends with
  | finished outcome => exact lock
  | trying token again => exact lock.2
  | failed f => exact lock.elim

end Site

/-! ## How a check goes -/

/-- How a check goes alone, by what the comparison of the secret comes to, and what it comes to. -/
inductive Guard.Goes (l : Limiter) (world subject : String) (task : Nat) (s s' : System) :
    Except Failure Bool → Except Failure Bool → Prop where
  /-- The look says that the cap is reached. -/
  | full {matching : Except Failure Bool} (still : s.Still s') :
      Goes l world subject task s s' matching (.error (.rateLimited world))
  /-- The comparison fails. -/
  | broken {f : Failure} (still : s.Still s') : Goes l world subject task s s' (.error f) (.error f)
  | cleared {s₁ s₂ : System} (looked : s.Still s₁)
      (clears : (Limiter.clear world subject).run.run task s₁ = (s₂, .ok ()))
      (noted : s₂.Still s') : Goes l world subject task s s' (.ok true) (.ok true)
  | recorded {s₁ s₂ : System} {capped : Bool}
      (look : (l.isLimited world subject).run.run task s = (s₁, .ok false)) (looked : s.Still s₁)
      (records : (l.recordFailure world subject).run.run task s₁ = (s₂, .ok capped))
      (noted : s₂.Still s') : Goes l world subject task s s' (.ok false)
        (if capped then .error (.rateLimited world) else .ok false)

/-- What is noted of a check is all that is left to do. -/
theorem Guard.audit_run (world outcome id : String) (task : Nat) (s : System)
    (answer : Except Failure Bool) :
    ∃ s', (Guard.audit world outcome id >>= fun _ => Routine.ofExcept answer).run.run task s
      = (s', answer) ∧ s.Still s' := by
  rw [Routine.run_bind, Guard.audit, Routine.run_log]
  exact ⟨_, rfl, rfl, rfl, rfl, rfl, rfl, rfl⟩

theorem Guard.check_goes {l : Limiter} {id world subject : String} {plain hashed : Json}
    {task : Nat} {s s' : System} (noFault : s.faults = []) {told : Except Failure Bool}
    (run : (Guard.check l id world subject plain hashed).run.run task s = (s', told)) :
    Guard.Goes l world subject task s s' (Guard.matching plain hashed) told := by
  have spared : ∀ {α : Type} {p : Site} {proc : Proc α} {ends : α → Stage → Prop} {s : System},
      s.faults = [] → proc.Obeys p.protocol task ends .idle →
      ∀ e ∈ proc.doings task s, e.Spares :=
    fun noFault obeys => obeys.spares_doings (by simp [noFault])
  rw [Guard.check, Routine.run_bind] at run
  have looked := (l.isLimited_quiet world subject).still_run task noFault
  obtain ⟨limited, answers⟩ := Limiter.isLimited_does
    (Proc.does_doings task (l.isLimited world subject).run s)
    (spared noFault (@Site.isLimited_obeys ⟨l, world, subject, true, false, false⟩ task rfl))
  generalize look : (l.isLimited world subject).run.run task s = ended at run looked answers
  obtain ⟨s₁, _⟩ := ended
  cases answers
  have noFault₁ : s₁.faults = [] := looked.faults.trans noFault
  cases limited with
  | true =>
    obtain ⟨s₂, noted, still⟩ := Guard.audit_run world "false reason=rate_limited" id task s₁
      (.error (.rateLimited world))
    cases noted.symm.trans run
    exact .full (looked.trans still)
  | false =>
    cases matching : Guard.matching plain hashed with
    | error f =>
      rw [matching] at run
      cases run
      exact .broken looked
    | ok verified =>
      rw [matching] at run
      cases verified with
      | true =>
        have run : (Limiter.clear world subject >>= fun _ => Guard.audit world "true" id
            >>= fun _ => (pure true : Routine Bool)).run.run task s₁ = (s', told) := run
        rw [Routine.run_bind] at run
        generalize clears : (Limiter.clear world subject).run.run task s₁ = ended at run
        obtain ⟨s₂, dropped⟩ := ended
        obtain ⟨-, -, rfl, -⟩ := Site.clear_run (p := ⟨l, world, subject, false, false, true⟩)
          noFault₁ rfl ⟨rfl, rfl⟩ clears
        obtain ⟨s₃, noted, still⟩ := Guard.audit_run world "true" id task s₂ (.ok true)
        cases noted.symm.trans run
        exact .cleared looked clears still
      | false =>
        have run : (l.recordFailure world subject >>= fun capped =>
            if capped then Guard.refuse world id
            else Guard.audit world "false reason=invalid" id
              >>= fun _ => (pure false : Routine Bool)).run.run task s₁ = (s', told) := run
        rw [Routine.run_bind] at run
        obtain ⟨capped, _, records, -⟩ := Site.recordFailure_tells
          (p := ⟨l, world, subject, false, true, false⟩) task noFault₁ rfl
        generalize recorded : (l.recordFailure world subject).run.run task s₁ = ended at run records
        obtain ⟨s₂, _⟩ := ended
        cases records
        obtain ⟨s₃, noted, still⟩ := Guard.audit_run world
          (if capped then "false reason=rate_limited" else "false reason=invalid") id task s₂
          (if capped then .error (.rateLimited world) else .ok false)
        have noted : s₃ = s'
            ∧ (if capped then .error (.rateLimited world) else .ok false) = told := by
          cases capped <;> exact Prod.ext_iff.1 (noted.symm.trans run)
        obtain ⟨rfl, rfl⟩ := noted
        exact .recorded look looked recorded still

/-! ## Without faults -/

/-- A look that runs after what changed nothing answers the same. -/
theorem Limiter.isLimited_still {l : Limiter} {world subject : String} {task : Nat}
    {s s₁ : System} (noFault : s.faults = []) (still : s.Still s₁) :
    ((l.isLimited world subject).run.run task s₁).2
      = ((l.isLimited world subject).run.run task s).2 := by
  let p : Site := ⟨l, world, subject, true, false, false⟩
  generalize look : (l.isLimited world subject).run.run task s = ended
  generalize look₁ : (l.isLimited world subject).run.run task s₁ = ended₁
  obtain ⟨-, -, -, ends⟩ := p.isLimited_run noFault rfl ⟨rfl, rfl⟩ look
  obtain ⟨-, -, -, ends₁⟩ := p.isLimited_run (still.faults.trans noFault) rfl ⟨rfl, rfl⟩ look₁
  have same : (World.of s₁ []).SameTime (.of s []) := ⟨still.elapsed, still.epoch, still.skews⟩
  have reply : (World.of s₁ []).reply p.key = (World.of s []).reply p.key := by
    have store : (World.of s₁ []).store = (World.of s []).store := still.store
    rw [World.reply_eq, World.reply_eq, store, same.now]
  rw [reply, same.read] at ends₁
  generalize p.glance _ _ = stage at ends ends₁
  generalize ended.2 = told at ends
  generalize ended₁.2 = told₁ at ends₁
  cases ends <;>
  · cases ends₁
    rfl

/-- No fault waits, the clocks have started, and as long as the monotonic one can be read some locks
    are free. -/
structure Unfaulted (locks : String → Prop) (s : System) : Prop where
  noFault : s.faults = []
  started : 0 ≤ s.elapsed
  free : MonotonicReadable s.elapsed → ∀ k, locks k → s.get? k = none

/-- What a check that came to an answer has counted. -/
inductive Tells : Except Failure Bool → List AttemptOutcome → Prop where
  | cleared : Tells (.ok true) [.cleared]
  | allowed : Tells (.ok false) [.allowed]
  | failOpen : Tells (.ok false) [.failOpen]
  | nothing (f : Failure) : Tells (.error f) []

namespace Unfaulted

variable {locks : String → Prop} {s s' : System} {l : Limiter} {world subject : String} {task : Nat}

theorem still (unfaulted : Unfaulted locks s) (still : s.Still s') : Unfaulted locks s' where
  noFault := still.faults.trans unfaulted.noFault
  started := by
    rw [still.elapsed]
    exact unfaulted.started
  free := by
    unfold System.get?
    rw [still.elapsed, still.store]
    exact unfaulted.free

/-- Some time passes. -/
theorem wait (unfaulted : Unfaulted locks s) (ms : Int) : Unfaulted locks (s.wait ms) where
  noFault := unfaulted.noFault
  started := by
    have := unfaulted.started
    show 0 ≤ s.elapsed + max 0 ms
    omega
  free := by
    intro later k hk
    have le : s.elapsed ≤ s.elapsed + max 0 ms := by omega
    exact Store.get?_eq_none_later le (unfaulted.free (later.of_le unfaulted.started le) k hk)

/-- No time passes, and the locks stay free. -/
theorem instant (unfaulted : Unfaulted locks s) (same : (World.of s' []).SameTime (.of s []))
    (noFault : s'.faults = [])
    (lock : ∀ k, locks k → s.get? k = none → s'.get? k = none) : Unfaulted locks s' where
  noFault := noFault
  started := by
    rw [show s'.elapsed = s.elapsed from same.now]
    exact unfaulted.started
  free := by
    rw [show s'.elapsed = s.elapsed from same.now]
    exact fun read k hk => lock k hk (unfaulted.free read k hk)

/-- A record is cleared. -/
theorem clear (unfaulted : Unfaulted locks s) (record : ¬locks (attemptsKey world subject))
    {result : Except Failure Unit}
    (run : (Limiter.clear world subject).run.run task s = (s', result)) : Unfaulted locks s' := by
  obtain ⟨same, noFault, -, store⟩ :=
    Site.clear_run (p := ⟨⟨{}, .system⟩, world, subject, false, false, true⟩) unfaulted.noFault rfl
      ⟨rfl, rfl⟩ run
  refine unfaulted.instant same noFault fun k hk free => ?_
  have elapsed : s'.elapsed = s.elapsed := same.now
  rw [System.get?, store, elapsed]
  refine (Command.get?_perform_of_ne _ _ _ _ k fun about => record ?_).trans free
  rw [show attemptsKey world subject = k from Option.some.inj about]
  exact hk

/-- An attempt is recorded that was let through by a look just before: it is not turned away. -/
theorem record (unfaulted : Unfaulted locks s) (cap : 1 ≤ l.config.cap)
    (ttl : 1 ≤ l.config.lock.ttl) (retries : 0 ≤ l.config.lock.retries)
    (lock : locks (lockKey world subject)) (record : ¬locks (attemptsKey world subject))
    (look : ((l.isLimited world subject).run.run task s).2 = .ok false) {capped : Bool}
    (run : (l.recordFailure world subject).run.run task s = (s', .ok capped)) :
    Unfaulted locks s' ∧ capped = false := by
  let p : Site := ⟨l, world, subject, false, true, false⟩
  have noFault := unfaulted.noFault
  rcases System.monotonic_or_timeless unfaulted.started with readable | timeless
  · have free := unfaulted.free readable
    obtain ⟨same, noFault', freed⟩ := p.lock_returned noFault rfl ⟨rfl, rfl⟩ (free _ lock) ttl
      readable run
    have elapsed : s'.elapsed = s.elapsed := same.now
    constructor
    · refine unfaulted.instant same noFault' fun k hk was => ?_
      by_cases own : k = p.lock
      · rw [own]
        exact freed
      · have other : k ≠ p.key := by
          rintro rfl
          exact record hk
        have others := p.get?_recordFailure_of_ne task rfl other own s s.elapsed
        rw [show (p.limiter.recordFailure p.world p.subject).run.run task s = _ from run] at others
        rw [System.get?, elapsed]
        exact others.trans was
    · obtain ⟨limited, glance, recorded⟩ := p.recordFailure_glance task noFault rfl ⟨rfl, rfl⟩
        (free _ lock) cap ttl retries readable
      have looked := Site.isLimited_glance (p := ⟨l, world, subject, true, false, false⟩) task
        noFault rfl ⟨rfl, rfl⟩ glance
      rw [look] at looked
      rw [run] at recorded
      cases looked
      cases recorded
      rfl
  · obtain ⟨told, noFault', adrift⟩ := p.recordFailure_timeless noFault timeless rfl ⟨rfl, rfl⟩ run
    cases told
    exact ⟨⟨noFault', Int.le_trans unfaulted.started adrift.later,
      fun read => absurd read (timeless.later adrift.later).not_monotonic⟩, rfl⟩

/-- **What a check counts.** Without faults a check counts what tells its answer, and leaves things
    as they have to be for the next. -/
theorem check (unfaulted : Unfaulted locks s) (cap : 1 ≤ l.config.cap)
    (ttl : 1 ≤ l.config.lock.ttl) (retries : 0 ≤ l.config.lock.retries)
    (lock : locks (lockKey world subject)) (record : ¬locks (attemptsKey world subject))
    {matching told : Except Failure Bool}
    (goes : Guard.Goes l world subject task s s' matching told) :
    Unfaulted locks s' ∧ ∃ outcomes, s.Counts outcomes s' ∧ Tells told outcomes := by
  cases goes with
  | full still => exact ⟨unfaulted.still still, _, still.counts, .nothing _⟩
  | broken still => exact ⟨unfaulted.still still, _, still.counts, .nothing _⟩
  | @cleared s₁ s₂ looked clears noted =>
    have before := unfaulted.still looked
    have counts := Limiter.clear_counts world subject task before.noFault
    rw [clears] at counts
    exact ⟨(before.clear record clears).still noted, _,
      (looked.counts.trans counts).trans noted.counts, .cleared⟩
  | @recorded s₁ s₂ capped look looked records noted =>
    have before := unfaulted.still looked
    have again : ((l.isLimited world subject).run.run task s₁).2 = .ok false := by
      rw [Limiter.isLimited_still unfaulted.noFault looked, look]
    obtain ⟨after, rfl⟩ := before.record cap ttl retries lock record again records
    obtain ⟨limited, o, returns, counts, other, limits⟩ := Site.recordFailure_tells
      (p := ⟨l, world, subject, false, true, false⟩) task before.noFault rfl
    rw [show (l.recordFailure world subject).run.run task s₁ = _ from records] at returns counts
    cases returns
    refine ⟨after.still noted, _, (looked.counts.trans counts).trans noted.counts, ?_⟩
    cases o with
    | allowed => exact .allowed
    | failOpen => exact .failOpen
    | cleared => exact absurd rfl other
    | rateLimited => simp at limits

end Unfaulted

/-! ## With both clocks -/

/-- At an instant there is no record under a key, or one of timestamps that are in the range of
    binary64 numbers. -/
def Store.Lists (s : Store) (key : String) (t : Int) : Prop :=
  s.get? t key = none ∨ ∃ timestamps expiry,
    s.get? t key = some ⟨(Window.record timestamps).write .stored, expiry⟩
      ∧ ∀ n ∈ timestamps, inBinary64Range n

theorem Store.Lists.congr {s s' : Store} {key : String} {t : Int} (lists : s.Lists key t)
    (same : s'.get? t key = s.get? t key) : s'.Lists key t := by
  unfold Lists
  rw [same]
  exact lists

/-- What is found in it. -/
theorem Store.Lists.finds {s : Store} {key : String} {t : Int} (lists : s.Lists key t)
    (config : LimiterConfig) (now : Int) :
    ∃ timestamps, Register.Finds config s key t now timestamps
      ∧ ∀ n ∈ timestamps, inBinary64Range n := by
  rcases lists with absent | ⟨timestamps, expiry, found, inRange⟩
  · exact ⟨[], Register.finds_nil now absent, fun n hn => absurd hn List.not_mem_nil⟩
  · exact ⟨_, Register.finds_record now inRange found,
      fun n hn => inRange n (List.mem_filter.1 hn).1⟩

/-- Now and at any later instant there are no records but such, under any of some keys. -/
def System.Lists (s : System) (keys : String → Prop) : Prop :=
  ∀ k, keys k → ∀ t, s.elapsed ≤ t → s.store.Lists k t

namespace System.Lists

variable {keys : String → Prop} {s s' : System} {l : Limiter} {world subject : String} {task : Nat}

theorem still (lists : s.Lists keys) (still : s.Still s') : s'.Lists keys := by
  intro k hk t later
  rw [still.elapsed] at later
  rw [still.store]
  exact lists k hk t later

theorem wait (lists : s.Lists keys) (ms : Int) : (s.wait ms).Lists keys := by
  intro k hk t later
  refine lists k hk t (Int.le_trans ?_ later)
  show s.elapsed ≤ s.elapsed + max 0 ms
  omega

/-- A record is cleared. -/
theorem clear (lists : s.Lists keys) (noFault : s.faults = []) {result : Except Failure Unit}
    (run : (Limiter.clear world subject).run.run task s = (s', result)) : s'.Lists keys := by
  obtain ⟨same, -, -, store⟩ :=
    Site.clear_run (p := ⟨⟨{}, .system⟩, world, subject, false, false, true⟩) noFault rfl
      ⟨rfl, rfl⟩ run
  have elapsed : s'.elapsed = s.elapsed := same.now
  intro k hk t later
  rw [elapsed] at later
  rw [store]
  by_cases own : k = attemptsKey world subject
  · rw [own]
    exact .inl (Site.get?_delete s.store s.elapsed _ later)
  · refine (lists k hk t later).congr (Command.get?_perform_of_ne _ _ _ _ k fun about => own ?_)
    exact (Option.some.inj about).symm

/-- **With both clocks an attempt is counted.** Where both clocks can be read and its lock is free,
    a record call finds a record that it can read: no attempt goes uncounted, and again there is
    none but a record of timestamps. -/
theorem record (lists : s.Lists keys) (noFault : s.faults = []) (cap : 1 ≤ l.config.cap)
    (keep : 1 ≤ l.config.recordSeconds) (ttl : 1 ≤ l.config.lock.ttl)
    (retries : 0 ≤ l.config.lock.retries) (own : keys (attemptsKey world subject))
    (other : ¬keys (lockKey world subject)) (free : s.get? (lockKey world subject) = none)
    (readable : MonotonicReadable s.elapsed) {now : Int} (clock : s.read l.clock = .ok now)
    (inRange : inBinary64Range now) {result : Except Failure Bool}
    (run : (l.recordFailure world subject).run.run task s = (s', result)) :
    s'.Lists keys ∧ s'.counted .failOpen = s.counted .failOpen := by
  let p : Site := ⟨l, world, subject, false, true, false⟩
  obtain ⟨acquired, monotonic⟩ := (World.of s []).exists_monotonic readable
  have clock' : (World.of s []).read l.clock = .ok now := (World.read_of s [] _).trans clock
  obtain ⟨same, -, -, -, records⟩ := p.recordFailure_run noFault rfl ⟨rfl, rfl⟩ free ttl retries
    (attemptsKey_ne_lockKey world subject) monotonic clock' run
  obtain ⟨limited, o, -, settled, counters, -, limits, allows⟩ := p.recordFailure_counts task
    noFault rfl ⟨rfl, rfl⟩ free ttl keep retries monotonic clock' cap run
  have elapsed : s'.elapsed = s.elapsed := same.now
  obtain ⟨timestamps, finds, fits⟩ :=
    (lists p.key own s.elapsed (Int.le_refl _)).finds l.config now
  have fits : ∀ n ∈ timestamps ++ [now], inBinary64Range n :=
    List.forall_mem_append.2 ⟨fits, List.forall_mem_singleton.2 inRange⟩
  rw [Register.verdict_of_finds (p := p) (v := .of s []) ttl monotonic fits finds]
    at settled allows records
  have apart : ∀ k, keys k → k ≠ p.lock := by
    rintro k hk rfl
    exact other hk
  by_cases full : l.capReached timestamps = true
  · rw [if_pos full] at settled allows records
    constructor
    · intro k hk t later
      rw [elapsed] at later
      exact (lists k hk t later).congr (records k (apart k hk) t)
    · obtain rfl : true = limited := Except.ok.inj settled
      rw [limits.1 rfl] at counters
      simpa [System.counted] using counters .failOpen
  · rw [if_neg full] at settled allows records
    constructor
    · intro k hk t later
      rw [elapsed] at later
      have written := records k (apart k hk) t
      by_cases own : k = p.key
      · rw [own, p.get?_written_self keep, Option.filter_some] at written
        rw [own]
        split at written
        · exact .inr ⟨_, _, written, fits⟩
        · exact .inl written
      · rw [p.get?_written_of_ne own] at written
        exact (lists k hk t later).congr written
    · rw [allows.2 rfl] at counters
      simpa [System.counted] using counters .failOpen

/-- So it is with a check. -/
theorem check (lists : s.Lists keys) (noFault : s.faults = []) (cap : 1 ≤ l.config.cap)
    (keep : 1 ≤ l.config.recordSeconds) (ttl : 1 ≤ l.config.lock.ttl)
    (retries : 0 ≤ l.config.lock.retries) (own : keys (attemptsKey world subject))
    (other : ¬keys (lockKey world subject)) (free : s.get? (lockKey world subject) = none)
    (readable : MonotonicReadable s.elapsed) {now : Int} (clock : s.read l.clock = .ok now)
    (inRange : inBinary64Range now) {matching told : Except Failure Bool}
    (goes : Guard.Goes l world subject task s s' matching told) :
    s'.Lists keys ∧ s'.counted .failOpen = s.counted .failOpen := by
  cases goes with
  | full still => exact ⟨lists.still still, still.counted _⟩
  | broken still => exact ⟨lists.still still, still.counted _⟩
  | @cleared s₁ s₂ looked clears noted =>
    have noFault₁ : s₁.faults = [] := looked.faults.trans noFault
    have counts := Limiter.clear_counts world subject task noFault₁ .failOpen
    rw [clears] at counts
    refine ⟨((lists.still looked).clear noFault₁ clears).still noted, ?_⟩
    exact (noted.counted _).trans (counts.trans (looked.counted _))
  | @recorded s₁ s₂ capped look looked records noted =>
    have noFault₁ : s₁.faults = [] := looked.faults.trans noFault
    have free₁ : s₁.get? (lockKey world subject) = none := by
      rw [System.get?, looked.store, looked.elapsed]
      exact free
    have readable₁ : MonotonicReadable s₁.elapsed := by
      rw [looked.elapsed]
      exact readable
    have clock₁ : s₁.read l.clock = .ok now := by
      rw [← clock, ← World.read_of s₁ [], ← World.read_of s []]
      exact World.SameTime.read ⟨looked.elapsed, looked.epoch, looked.skews⟩ _
    obtain ⟨lists₂, none⟩ := (lists.still looked).record noFault₁ cap keep ttl retries own other
      free₁ readable₁ clock₁ inRange records
    refine ⟨lists₂.still noted, ?_⟩
    exact (noted.counted _).trans (none.trans (looked.counted _))

end System.Lists

end Turnstile

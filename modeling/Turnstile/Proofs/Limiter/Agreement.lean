import Turnstile.Proofs.Limiter.Alone
import Turnstile.Proofs.Limiter.FailOpen

set_option autoImplicit false

/-! # The look and the section agree

The look without a lock and the section under the lock read the same record, and each treats what is
wrong with it in its own way: the look takes any failure for a no, while the section takes some for an
empty record and gives up at others. Under a cap that allows an attempt this comes to the same
(`Site.exists_glance_eq`), and where the limiter's clock cannot be read both say no. So a record call
whose lock is free answers what a look would have answered (`look_agrees`). -/

namespace Turnstile

namespace Site

variable {p : Site}

/-! ## At one instant -/

/-- An ordinary failure makes the look say no. -/
theorem unseen_of_ordinary {f : Failure} (ordinary : f.isCancellation = false) :
    Stage.unseen f = .weighed false := by
  simp [Stage.unseen, ordinary]

/-- An ordinary failure makes the section say no. -/
theorem settle_of_ordinary {f : Failure} (ordinary : f.isCancellation = false) :
    settle (.error f) = .ok false := by
  simp [settle, ordinary]

/-- What keeps a reply from being read is an ordinary failure, if the reply is none or one. -/
theorem isCancellation_of_unread {reply : Except Failure Json} {f : Failure}
    (ordinary : ∀ g, reply = .error g → g.isCancellation = false)
    (unread : reply.bind Cache.valueOf = .error f) : f.isCancellation = false := by
  cases reply with
  | ok reply => exact Cache.isCancellation_of_valueOf unread
  | error g => exact ordinary f (congrArg Except.error (Except.error.inj unread))

/-- Where the section finds room it says no, whether it comes to write or not. -/
theorem settle_verdict_of_room {acquired : Binary64} {now : Int} {reply : Except Failure Json}
    {recent : List Int} (read : (stored reply).bind (p.limiter.recent · now) = .ok recent)
    (room : p.limiter.capReached recent = false) :
    settle (p.verdict acquired now reply).1 = .ok false := by
  simp only [verdict, read, room]
  by_cases late : (millisBetween acquired acquired).reaches p.ttl = true
  · simp [late, settle]
  · by_cases fit : (Window.record (recent ++ [now])).integersFit = true
    · simp [late, fit, settle]
    · simp [late, fit, settle_of_ordinary (f := .integerTooLong) rfl]

/-- An empty record has room under a cap that allows an attempt. -/
theorem room_of_nil (cap : 1 ≤ p.limiter.config.cap) : p.limiter.capReached [] = false := by
  simp only [Limiter.capReached, List.length_nil, decide_eq_false_iff_not]
  omega

/-- **One answer at a glance and under the lock.** By one reply to their reads, and one reading of the
    clock, the look and the section come to the same answer. -/
theorem exists_glance_eq (cap : 1 ≤ p.limiter.config.cap) (acquired : Binary64) (now : Int)
    {reply : Except Failure Json} (ordinary : ∀ f, reply = .error f → f.isCancellation = false) :
    ∃ limited, p.glance reply (.ok now) = .weighed limited
      ∧ settle (p.verdict acquired now reply).1 = .ok limited := by
  cases found : reply.bind Cache.valueOf with
  | ok value =>
    have looked : seen reply = .looked value := by simp only [seen, found]
    have kept : stored reply = .ok value := by simp only [stored, found]
    have glance : p.glance reply (.ok now) = p.weigh value (.ok now) := by
      simp only [Site.glance, looked]
    have window : (Except.ok now).bind (p.limiter.recent value) = p.limiter.recent value now := rfl
    rw [glance, Site.weigh, window]
    cases read : p.limiter.recent value now with
    | ok recent =>
      have read : (stored reply).bind (p.limiter.recent · now) = .ok recent := by
        rw [kept]
        exact read
      refine ⟨p.limiter.capReached recent, rfl, ?_⟩
      cases full : p.limiter.capReached recent with
      | true => simp only [verdict, read, full, if_true, settle]
      | false => exact settle_verdict_of_room read full
    | error f =>
      -- An integer in the list is too large to be told from the window's start.
      have tame : f.isCancellation = false := Window.isCancellation_of_later read
      have read : (stored reply).bind (p.limiter.recent · now) = .error f := by
        rw [kept]
        exact read
      refine ⟨false, unseen_of_ordinary tame, ?_⟩
      simp only [verdict, read]
      exact settle_of_ordinary tame
  | error f =>
    have tame := isCancellation_of_unread ordinary found
    have unseen : seen reply = .weighed false := by
      simp only [seen, found, unseen_of_ordinary tame]
    refine ⟨false, by simp only [Site.glance, unseen], ?_⟩
    cases taken : f.isStoreError || f.isValueError with
    | true =>
      have read : (stored reply).bind (p.limiter.recent · now) = .ok [] := by
        simp only [stored, found, taken, if_true]
        rfl
      exact settle_verdict_of_room read (room_of_nil cap)
    | false =>
      have read : (stored reply).bind (p.limiter.recent · now) = .error f := by
        simp only [stored, found, taken]
        rfl
      simp only [verdict, read]
      exact settle_of_ordinary tame

/-! ## Without a clock -/

/-- Where a record call is that runs alone, in a world that has moved on from `w` and in which the
    limiter's clock cannot be read. -/
def BlindFrom (w v : World) (stage : Stage) : Prop :=
  v.SameTime w ∧ match stage with
    | .idle => v.store = w.store
    | .trying _ again => again = false ∧ v.store = w.store
    | .inside _ .granted | .inside _ (.begun _) => True
    | .inside _ (.closing outcome) | .finished outcome => settle outcome = .ok false
    | _ => False

/-- A step of a record call that runs alone and has no clock. -/
theorem BlindFrom.step {w v : World} {acquired : Binary64} {unread : Failure} {stage stage' : Stage}
    {e : Event} (only : p.looks = false ∧ p.drops = false)
    (free : w.store.get? w.now p.lock = none) (positive : 0 < p.ttl)
    (monotonic : w.monotonic = .ok acquired) (clock : w.read p.limiter.clock = .error unread)
    (ordinary : unread.isCancellation = false) (blind : BlindFrom w v stage)
    (admits : v.Admits e) (perform : e.action = .perform) (step : p.Step stage e stage') :
    BlindFrom w (v.add e) stage' := by
  obtain ⟨same, at_⟩ := blind
  cases step with
  | log | count => exact ⟨same.add _, at_⟩
  | look may =>
    rw [only.1] at may
    cases may
  | @drop stage may isOpen =>
    rw [only.2] at may
    cases may
  | @draw stage may isOpen =>
    cases stage with
    | idle => exact ⟨same.add _, rfl, at_⟩
    | weighed limited => exact at_.elim
    | _ => cases isOpen
  | pause => cases at_.1
  | @contend token again time task action reply =>
    cases perform
    have answered : reply = .ok (.bool true) := by
      have answered : reply = (Command.perform v.now v.store
          (.setIfAbsent p.lock (tokenText token) p.ttl)).2 := admits.answer
      rw [answered, Command.perform, at_.2, same.now, free, if_neg (Int.not_le.2 positive)]
    rw [answered]
    exact ⟨same.add _, trivial⟩
  | @handle hold time task action reading =>
    have answered : reading = .ok acquired := by
      rw [← monotonic, ← same.monotonic]
      exact admits.answer
    rw [answered]
    exact ⟨same.add _, trivial⟩
  | @time hold a time task action reading =>
    have answered : reading = .error unread := by
      rw [← clock, ← same.read]
      exact admits.answer
    rw [answered]
    exact ⟨same.add _, settle_of_ordinary ordinary⟩
  | @release hold outcome time task action reply =>
    cases perform
    refine ⟨same.add _, ?_⟩
    have answered : reply = (Command.perform v.now v.store
        (.deleteIfEqual p.lock (tokenText hold.token))).2 := admits.answer
    cases reply with
    | ok reply => exact at_
    | error f =>
      rw [Command.eq_invalidExpiry (Prod.ext rfl answered.symm)]
      exact at_
  | _ => exact at_.elim

/-- A record call alone says no where the limiter's clock cannot be read. -/
theorem recordFailure_blind {s : System} (noFault : s.faults = []) {task : Nat}
    (records : p.records) (only : p.looks = false ∧ p.drops = false)
    (free : s.get? p.lock = none) (positive : 0 < p.ttl) {unread : Failure}
    (readable : MonotonicReadable s.elapsed)
    (clock : (World.of s []).read p.limiter.clock = .error unread)
    (ordinary : unread.isCancellation = false) :
    ((p.limiter.recordFailure p.world p.subject).run.run task s).2 = .ok false := by
  obtain ⟨acquired, monotonic⟩ := (World.of s []).exists_monotonic readable
  have pass : ∀ v stage e stage' t, BlindFrom (.of s []) v stage → p.Step stage e stage' →
      e.effect.idles → v.now ≤ t → BlindFrom (.of s []) (v.atTime t) stage := by
    intro v stage e stage' t blind step idles _
    cases step with
    | wait => exact blind.2.elim
    | pause => cases blind.2.1
    | _ => cases idles
  obtain ⟨stage, h, ⟨-, at_⟩, ⟨ends, -⟩, -⟩ := Proc.run_invariant
    (fun _ _ _ _ blind admits perform step =>
      blind.step only free positive monotonic clock ordinary admits perform step)
    pass (@recordFailure_obeys p task .idle records trivial) noFault (h := [])
    ⟨⟨rfl, rfl, rfl⟩, rfl⟩
  generalize ((p.limiter.recordFailure p.world p.subject).run.run task s).2 = told at ends
  cases ends with
  | finished outcome => exact at_
  | failed f => exact at_.elim
  | trying token again => rfl

/-- The look says no as well. -/
theorem glance_blind {reply : Except Failure Json} {unread : Failure}
    (spares : ∀ f, reply = .error f → f.isCancellation = false)
    (ordinary : unread.isCancellation = false) :
    p.glance reply (.error unread) = .weighed false := by
  cases found : reply.bind Cache.valueOf with
  | ok value =>
    have looked : seen reply = .looked value := by simp only [seen, found]
    simp only [Site.glance, looked]
    exact unseen_of_ordinary ordinary
  | error f =>
    have tame := isCancellation_of_unread spares found
    simp only [Site.glance, seen, found, unseen_of_ordinary tame]

end Site

/-- The system clock fails in an ordinary way, and the clock of an instance does not fail. -/
theorem World.isCancellation_of_read {v : World} {clock : Clock} {f : Failure}
    (unread : v.read clock = .error f) : f.isCancellation = false := by
  cases clock with
  | skewed index => cases unread
  | system =>
    rw [World.read] at unread
    cases told : systemMillis (v.epoch + v.now) with
    | ok now =>
      rw [told] at unread
      cases unread
    | error reason =>
      rw [told] at unread
      cases unread
      rfl

/-- A read without a fault does not fail. -/
theorem World.ordinary_reply (v : World) (key : String) :
    ∀ f, v.reply key = .error f → f.isCancellation = false := by
  intro f failed
  rw [World.reply_eq] at failed
  cases failed

namespace Site

variable {p : Site} {s : System}

/-- A record call alone comes to what a glance at the store tells, whether its limiter's clock can be
    read or not, where its lock is free and the monotonic clock can be read. -/
theorem recordFailure_glance (task : Nat) (noFault : s.faults = []) (records : p.records)
    (only : p.looks = false ∧ p.drops = false) (free : s.get? p.lock = none)
    (cap : 1 ≤ p.limiter.config.cap) (ttl : 1 ≤ p.ttl)
    (retries : 0 ≤ p.limiter.config.lock.retries) (readable : MonotonicReadable s.elapsed) :
    ∃ limited, p.glance ((World.of s []).reply p.key) ((World.of s []).read p.limiter.clock)
        = .weighed limited
      ∧ ((p.limiter.recordFailure p.world p.subject).run.run task s).2 = .ok limited := by
  have spares := World.ordinary_reply (.of s []) p.key
  obtain ⟨acquired, monotonic⟩ := (World.of s []).exists_monotonic readable
  cases clock : (World.of s []).read p.limiter.clock with
  | ok now =>
    obtain ⟨limited, glance, settled⟩ := p.exists_glance_eq cap acquired now spares
    refine ⟨limited, glance, ?_⟩
    rw [← settled]
    exact (p.recordFailure_run noFault records only free ttl retries
      (attemptsKey_ne_lockKey p.world p.subject) monotonic clock rfl).2.2.1
  | error unread =>
    have ordinary := World.isCancellation_of_read clock
    refine ⟨false, glance_blind spares ordinary, ?_⟩
    exact p.recordFailure_blind noFault records only free ttl readable clock ordinary

/-- A look alone answers what a glance at the store tells. -/
theorem isLimited_glance (task : Nat) (noFault : s.faults = []) (looks : p.looks)
    (only : p.records = false ∧ p.drops = false) {limited : Bool}
    (glance : p.glance ((World.of s []).reply p.key) ((World.of s []).read p.limiter.clock)
      = .weighed limited) :
    ((p.limiter.isLimited p.world p.subject).run.run task s).2 = .ok limited := by
  generalize run : (p.limiter.isLimited p.world p.subject).run.run task s = looked
  obtain ⟨s', result⟩ := looked
  obtain ⟨-, -, -, ends⟩ := p.isLimited_run noFault looks only run
  rw [glance] at ends
  cases ends with
  | weighed => rfl

end Site

/-- A limiter that allows one attempt in a window. -/
def strict : Limiter := ⟨{ cap := 1 }, .skewed 0⟩

/-- A record that tells of no number, and of an attempt with a fraction, ahead of the clock. -/
def mixedRecord : System where
  store := ⟨[(attemptsKey "w" "s", ⟨"\x7b\"attempts\": [NaN, 1700000000000.5]\x7d", none⟩)]⟩

/-- A record of one attempt, at an instant beyond the range of the monotonic clock, which the
    limiter's clock shows as that of the attempt. -/
def lateRecord : System where
  elapsed := 10 ^ 400
  skews := [-10 ^ 400]
  store := ⟨[(attemptsKey "w" "s", ⟨"\x7b\"attempts\": [1700000000000]\x7d", none⟩)]⟩

end Turnstile

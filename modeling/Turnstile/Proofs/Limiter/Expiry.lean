import Turnstile.Proofs.Binary64.Rounding
import Turnstile.Proofs.Limiter.Cap
import Turnstile.Proofs.Run.History
import Turnstile.Proofs.Run.Trace

set_option autoImplicit false

/-! # Writes and the lock's time to live

Right before a call issues its write it looks at the age of its lock, and where that has run out it
writes nothing (`write_issued_unexpired`). The write may still be slow: ownership is advisory, and
nothing stops a write that was issued in time and takes effect after the lock has gone to another
call (`slow_write_outlives_lock`).

The invariant says of each call under its lock which event acquired it, and what was done since. -/

namespace Turnstile

/-- By the readings of the monotonic clock, a time to live that began at `since` has not run out at
    `now`. -/
def Unexpired (ttl since now : Int) : Prop :=
  ∃ acquired later, clockSeconds since = .ok acquired ∧ clockSeconds now = .ok later
    ∧ (millisBetween acquired later).reaches ttl = false

/-- Up to the rounding of clock readings that is what it says: no more milliseconds have passed than
    the time to live has. -/
theorem Unexpired.le {ttl since now : Int} (unexpired : Unexpired ttl since now)
    (positive : 1 ≤ ttl) (first : |since| ≤ 2 ^ 43) (second : |now| ≤ 2 ^ 43) :
    now ≤ since + ttl := by
  obtain ⟨acquired, later, hacquired, hlater, age⟩ := unexpired
  by_contra expired
  have acquired_eq : acquired = seconds since := by
    rw [clockSeconds] at hacquired
    split at hacquired <;> cases hacquired
    rfl
  have later_eq : later = seconds now := by
    rw [clockSeconds] at hlater
    split at hlater <;> cases hlater
    rfl
  obtain ⟨finite, close⟩ := millisBetween_close first second (by omega)
  rw [acquired_eq, later_eq, Bool.eq_false_iff, Ne, Binary64.reaches_iff finite, not_le] at age
  have passed : (since : ℚ) + ttl + 1 ≤ now := by exact_mod_cast (by omega : since + ttl + 1 ≤ now)
  linarith [(abs_le.1 close).1]

/-- A task acquired a lock by the event `a`, and `later` is what was done since. -/
structure Owns (lock : String) (h : List Event) (i : Nat) (a : Event) (later : List Event) :
    Prop where
  split : ∃ earlier, h = earlier ++ a :: later
  task : a.task = i
  acquires : a.acquires lock

theorem Owns.append {lock : String} {h : List Event} {i : Nat} {a : Event} {later : List Event}
    (owns : Owns lock h i a later) (e : Event) : Owns lock (h ++ [e]) i a (later ++ [e]) := by
  obtain ⟨⟨earlier, rfl⟩, task, acquires⟩ := owns
  exact ⟨⟨earlier, by simp⟩, task, acquires⟩

/-- The call has written a record. -/
def Event.isWrite (e : Event) : Prop := ∃ key text ttl, e.effect = .command (.set key text ttl)

theorem Event.isWrite_of_writes {e : Event} {key : String} (writes : e.writes key) : e.isWrite := by
  unfold Event.writes at writes
  split at writes
  · next text ttl effect => exact ⟨_, text, ttl, effect⟩
  · cases writes

namespace Site

variable (p : Site)

/-- As long as the lock that was acquired by `a` has not run out, no one acquires it again. -/
def Excludes (a : Event) (later : List Event) (now : Int) : Prop :=
  now < a.time + p.ttl → ∀ e ∈ later, e.acquires p.lock = false

/-- What a call under its lock has made sure of by how far it got. -/
def Checked (i : Nat) (a : Event) (later : List Event) (now : Int) : Phase → Prop
  | .granted => a.time = now
  | .begun acquired | .timed acquired _ | .room acquired .. => clockSeconds a.time = .ok acquired
  | .ready _ => ∃ issued, IssuedAt later i issued ∧ Unexpired p.ttl a.time issued
  | .written | .closing _ => True

/-- A task that writes has acquired its lock and then issued the write before that ran out, by the
    clock. Where locks are kept `apart` from records, no one else acquired it meanwhile unless it
    has run out since. -/
def WritesOwned (apart : Prop) (before : List Event) (x : Event) : Prop :=
  x.writes p.key ∧ ∃ a later issued, Owns p.lock before x.task a later
    ∧ IssuedAt later x.task issued ∧ Unexpired p.ttl a.time issued
    ∧ (apart → p.Excludes a later x.time)

end Site

/-! ## One step -/

section

variable {p : Site} {v : World} {e : Event} {stage stage' : Stage}

/-- What a call has made sure of stays so, while it does nothing that takes time. -/
theorem Site.Checked.append {i : Nat} {a : Event} {later : List Event} {phase : Phase} {now : Int}
    (checked : p.Checked i a later now phase) (quick : e.task = i → e.effect.waits = false) :
    p.Checked i a (later ++ [e]) now phase := by
  cases phase with
  | ready timestamps =>
    obtain ⟨issued, at', unexpired⟩ := checked
    exact ⟨issued, at'.append quick, unexpired⟩
  | _ => exact checked

/-- A lock excludes as before when what is done next does not acquire it. -/
theorem Site.Excludes.append {a : Event} {later : List Event} {now : Int}
    (excludes : p.Excludes a later now)
    (next : now < a.time + p.ttl → e.acquires p.lock = false) :
    p.Excludes a (later ++ [e]) now :=
  fun unexpired => List.forall_mem_append.2
    ⟨excludes unexpired, List.forall_mem_singleton.2 (next unexpired)⟩

theorem Stage.ne_inside_of_free (free : stage.hold? = none) {hold : Hold} {phase : Phase} :
    stage ≠ .inside hold phase := by
  rintro rfl
  cases free

/-- What a call makes sure of right before it issues a write. -/
theorem Site.checked_prepare {i : Nat} {a : Event} {later : List Event} {acquired : Binary64}
    {recent : List Int} {t : Int} {reading : Except Failure Binary64}
    (began : clockSeconds a.time = .ok acquired) (issued : IssuedAt later i t)
    (tells : ∀ now, reading = .ok now → clockSeconds t = .ok now) :
    p.Checked i a later t (p.prepare acquired recent reading) := by
  cases reading with
  | error f => trivial
  | ok now =>
    rw [Site.prepare]
    split
    · trivial
    · next unexpired =>
      split
      · exact ⟨t, issued, acquired, now, began, tells now rfl, by simpa using unexpired⟩
      · trivial

/-- A call that is under its lock after a step has just acquired it, or was under it before and has
    made sure of what it goes on by. -/
theorem Site.Step.checked (step : p.Step stage e stage') (admits : v.Admits e) {hold : Hold}
    {phase : Phase} (inside : stage' = .inside hold phase) :
    (e.acquires p.lock ∧ hold.since = e.time ∧ phase = .granted)
      ∨ ∃ phase₀, stage = .inside hold phase₀ ∧ e.acquires p.lock = false
        ∧ ∀ a later, p.Checked e.task a later v.now phase₀ →
          p.Checked e.task a (later ++ [e]) v.now phase := by
  obtain ⟨time, answer⟩ := admits
  cases step with
  | log | count =>
    exact .inr ⟨phase, inside, rfl, fun a later checked => checked.append fun _ => rfl⟩
  | wait | pause => cases inside
  | look => exact absurd inside (Stage.ne_inside_of_free (Site.hold?_seen _).1)
  | weigh => exact absurd inside (Stage.ne_inside_of_free (Site.hold?_weigh p _ _).1)
  | drop => exact absurd inside (Stage.ne_inside_of_free (Site.hold?_dropped _).1)
  | draw => cases inside
  | contend =>
    -- Only a try that is granted leads under the lock.
    rename_i reply
    cases reply with
    | ok reply =>
      simp only [Site.tried] at inside
      split at inside
      · next truthy =>
        cases inside
        exact .inl ⟨by simp [Event.acquires, truthy], rfl, rfl⟩
      · cases inside
    | error f =>
      simp only [Site.tried] at inside
      split at inside <;> cases inside
  | handle =>
    rename_i reading
    cases reading with
    | ok acquired =>
      cases inside
      refine .inr ⟨_, rfl, rfl, fun a later checked => ?_⟩
      have now : a.time = v.now := checked
      show clockSeconds a.time = .ok acquired
      rw [now, ← time]
      exact World.Admits.clockSeconds_eq ⟨time, answer⟩
    | error f => cases inside
  | time =>
    rename_i reading
    cases inside
    refine .inr ⟨_, rfl, rfl, fun a later checked => ?_⟩
    cases reading with
    | ok now => exact checked
    | error f => trivial
  | judge =>
    cases inside
    refine .inr ⟨_, rfl, rfl, fun a later checked => ?_⟩
    rw [Site.judge]
    split
    · split
      · trivial
      · exact checked
    · trivial
  | prepare =>
    rename_i task action reading
    cases inside
    refine .inr ⟨_, rfl, rfl, fun a later checked => Site.checked_prepare checked ?_ ?_⟩
    · rw [← time]
      exact IssuedAt.last later _
    · rintro now rfl
      rw [← time]
      exact World.Admits.clockSeconds_eq ⟨time, answer⟩
  | write =>
    rename_i reply
    cases inside
    refine .inr ⟨_, rfl, rfl, fun a later _ => ?_⟩
    fun_cases Site.kept reply <;> trivial
  | allow =>
    cases inside
    exact .inr ⟨_, rfl, rfl, fun a later _ => trivial⟩
  | release => cases inside

end

/-! ## The invariant -/

/-- No record is kept under the key of a lock. -/
def Separate (sites : Nat → Site) : Prop := ∀ i j, (sites i).key ≠ (sites j).lock

/-- What holds throughout a run: every call under its lock has acquired it and checked what it goes
    on by, and so had every one that has written. -/
structure Owned (sites : Nat → Site) (v : World) (stages : Nat → Stage) : Prop where
  exclusive : Separate sites → Exclusive sites v stages
  inside : ∀ i hold phase, stages i = .inside hold phase →
    ∃ a later, Owns (sites i).lock v.history i a later ∧ a.time = hold.since
      ∧ (sites i).Checked i a later v.now phase
      ∧ (Separate sites → (sites i).Excludes a later v.now)
  writes : Each (fun before x => x.isWrite → (sites x.task).WritesOwned (Separate sites) before x)
    v.history

variable {sites : Nat → Site} {v : World} {stages : Nat → Stage}

/-- While a call holds a lock that has not run out, no one acquires it. -/
theorem Exclusive.not_acquires (inv : Exclusive sites v stages) {i : Nat} {hold : Hold}
    (held : (stages i).hold? = some hold) (unexpired : v.now < hold.since + (sites i).ttl)
    {e : Event} (admits : v.Admits e) (perform : e.action = .perform) :
    e.acquires (sites i).lock = false := by
  have entry := inv.held i hold held unexpired
  obtain ⟨time, task, effect, action, answer⟩ := e
  obtain ⟨-, answered⟩ := admits
  cases perform
  cases effect with
  | command c =>
    cases c with
    | setIfAbsent key value ttl =>
      have reply : answer = (Command.perform v.now v.store (.setIfAbsent key value ttl)).2 :=
        answered
      by_cases same : key = (sites i).lock
      · -- The entry is there, and so the try is refused.
        subst same
        rcases Command.setIfAbsent_cases v.now v.store (sites i).lock value ttl with
          ⟨-, free, -⟩ | refused | refused
        · rw [entry] at free
          cases free
        · rw [refused] at reply
          rw [reply]
          rfl
        · rw [refused] at reply
          rw [reply]
          simp [Event.acquires, Json.truthy]
      · cases answer with
        | ok reply => simp [Event.acquires, same]
        | error f => rfl
    | _ => rfl
  | _ => rfl

/-- What a call under its lock has made sure of stays so when another call does something. -/
theorem Owned.other (inv : Owned sites v stages) {e : Event} (admits : v.Admits e)
    (perform : e.action = .perform) {i : Nat} (other : e.task ≠ i) {hold : Hold} {phase : Phase}
    (inside : stages i = .inside hold phase) :
    ∃ a later, Owns (sites i).lock (v.history ++ [e]) i a later ∧ a.time = hold.since
      ∧ (sites i).Checked i a later v.now phase
      ∧ (Separate sites → (sites i).Excludes a later v.now) := by
  obtain ⟨a, later, owns, since, checked, excludes⟩ := inv.inside i hold phase inside
  refine ⟨a, later ++ [e], owns.append e, since, checked.append fun same => absurd same other,
    fun apart => (excludes apart).append fun unexpired => ?_⟩
  have held : (stages i).hold? = some hold := by rw [inside]; rfl
  rw [since] at unexpired
  exact (inv.exclusive apart).not_acquires held unexpired admits perform

/-- What a call under its lock has made sure of after a step of its own. -/
theorem Owned.own (inv : Owned sites v stages) {e : Event} (admits : v.Admits e) {stage : Stage}
    (step : (sites e.task).Step (stages e.task) e stage) {hold : Hold} {phase : Phase}
    (inside : stage = .inside hold phase) :
    ∃ a later, Owns (sites e.task).lock (v.history ++ [e]) e.task a later ∧ a.time = hold.since
      ∧ (sites e.task).Checked e.task a later v.now phase
      ∧ (Separate sites → (sites e.task).Excludes a later v.now) := by
  rcases step.checked admits inside with ⟨acquires, since, rfl⟩ | ⟨phase₀, before, free, checks⟩
  · exact ⟨e, [], ⟨⟨v.history, rfl⟩, rfl, acquires⟩, since.symm, admits.time,
      by simp [Site.Excludes]⟩
  · obtain ⟨a, later, owns, since, checked, excludes⟩ := inv.inside _ hold phase₀ before
    exact ⟨a, later ++ [e], owns.append e, since, checks a later checked, fun apart =>
      (excludes apart).append fun _ => free⟩

/-- A step that writes is taken under the lock, by a call that is ready to. -/
theorem Site.Step.ready_of_write {p : Site} {stage stage' : Stage} {e : Event}
    (step : p.Step stage e stage') (write : e.isWrite) :
    e.writes p.key ∧ ∃ hold timestamps, stage = .inside hold (.ready timestamps) := by
  obtain ⟨key, text, ttl, effect⟩ := write
  cases step with
  | write => exact ⟨by simp [Event.writes], _, _, rfl⟩
  | look | drop | contend | judge | release =>
    simp only [Effect.command.injEq] at effect
    cases effect
  | _ => cases effect

/-- What a call does keeps the invariant. -/
theorem Owned.event (inv : Owned sites v stages) {e : Event} {stage : Stage}
    (admits : v.Admits e) (perform : e.action = .perform)
    (step : (sites e.task).Step (stages e.task) e stage) :
    Owned sites (v.add e) (Function.update stages e.task stage) where
  exclusive apart := (inv.exclusive apart).event apart admits perform step
  inside i hold phase inside := by
    by_cases hi : e.task = i
    · subst hi
      rw [Function.update_self] at inside
      exact inv.own admits step inside
    · rw [Function.update_of_ne (Ne.symm hi)] at inside
      exact inv.other admits perform hi inside
  writes := by
    refine inv.writes.snoc fun write => ?_
    obtain ⟨key, hold, timestamps, ready⟩ := step.ready_of_write write
    obtain ⟨a, later, owns, since, ⟨issued, at', unexpired⟩, excludes⟩ :=
      inv.inside _ hold _ ready
    rw [← admits.time] at excludes
    exact ⟨key, a, later, issued, owns, at', unexpired, excludes⟩

/-- Time may pass while no call has its lock and not yet its handle. -/
theorem Owned.pass (inv : Owned sites v stages) {t : Int} (later : v.now ≤ t)
    (settled : ∀ i hold, stages i ≠ .inside hold .granted) : Owned sites (v.atTime t) stages where
  exclusive apart := (inv.exclusive apart).pass later
  inside i hold phase inside := by
    obtain ⟨a, rest, owns, since, checked, excludes⟩ := inv.inside i hold phase inside
    refine ⟨a, rest, owns, since, ?_, fun apart unexpired => excludes apart ?_⟩
    · cases phase with
      | granted => exact absurd inside (settled i hold)
      | _ => exact checked
    · have unexpired : t < a.time + (sites i).ttl := unexpired
      omega
  writes := inv.writes

/-- What holds of every step holds of the whole run. -/
theorem Owned.keeps {instances : Instances} {calls : List Delayed} {q : Site}
    (counting : ∀ call ∈ calls, call.2.Counting) :
    (Call.regime instances calls q drifting (· = .perform)).Keeps
      (Owned (Call.siteAt instances calls q)) where
  perform := rfl
  event _ _ _ _ inv admits perform step := inv.event admits perform step
  pass c h stages t inv rest later _ := by
    refine inv.pass later fun i hold granted => ?_
    exact (Call.atRest_inside counting rest granted).2.1 rfl
  outside := by
    intro s s' h stages inv tame change
    obtain ⟨skews, rfl⟩ := change
    exact ⟨⟨fun apart => (inv.exclusive apart).congr rfl rfl rfl, inv.inside, inv.writes⟩, tame⟩

/-! ## Writes -/

/-- The call records an attempt of some pair. -/
def Call.Records (call : Call) : Prop := ∃ i world subject, call = .record i world subject

/-- **Writes are issued before the lock runs out.** Calls record attempts of any pairs on any
    instances next to each other, at any pace and in any order. Then whenever a call writes a record
    it has acquired its lock and, right before it issued the write, found by the monotonic clock
    that the lock's time to live had not run out. Where no record is kept under the key of a lock,
    no one has acquired the lock meanwhile, unless the write itself took so long that it has run
    out. -/
theorem write_issued_unexpired {instances : Instances} {calls : List Delayed} {s : System}
    {history before after : List Event} {x : Event} {final : Schedule (Except Failure CallResult)}
    (records : ∀ call ∈ calls, call.2.Records)
    (ttl : ∀ i, 1 ≤ (instances.limiter i).config.lock.ttl)
    (latency : ∀ f ∈ s.faults, f.action = .perform)
    (run : (Call.sideBySide instances calls s).Run drifting history final)
    (split : history = before ++ x :: after) (write : x.isWrite) :
    ∃ call p, calls[x.task]? = some call ∧ call.2.site? instances = some p ∧ x.writes p.key
      ∧ ∃ a later issued, Owns p.lock before x.task a later
        ∧ IssuedAt later x.task issued
        ∧ Unexpired p.ttl a.time issued
        ∧ (|a.time| ≤ 2 ^ 43 → |issued| ≤ 2 ^ 43 → issued ≤ a.time + p.ttl)
        ∧ ((∀ c ∈ calls, ∀ d ∈ calls, ∀ q r, c.2.site? instances = some q →
            d.2.site? instances = some r → q.key ≠ r.lock) →
          x.time < a.time + p.ttl → ∀ e ∈ later, e.acquires p.lock = false) := by
  have counting : ∀ call ∈ calls, call.2.Counting := by
    intro call hc
    obtain ⟨i, world, subject, h⟩ := records call hc
    rw [h]
    trivial
  have sites : ∀ call ∈ calls, (call.2.site? instances).isSome := by
    intro call hc
    obtain ⟨i, world, subject, h⟩ := records call hc
    rw [h]
    rfl
  obtain ⟨call, hcall⟩ := Call.exists_call run rfl (e := x) (by simp [split])
  have hc := List.mem_of_getElem? hcall
  obtain ⟨p, hp⟩ := Option.isSome_iff_exists.1 (sites call hc)
  -- The site of the task that writes stands in where there is no task.
  have start : Owned (Call.siteAt instances calls p) (.of s []) fun _ => .delayed :=
    ⟨fun _ => .start fun _ => rfl, fun _ _ _ h => (by cases h), Each.nil _⟩
  obtain ⟨stages, inv, -, -⟩ := run.invariant (Owned.keeps counting) start
    (Call.atRest_sideBySide (by rfl) sites s) latency
  have owned := inv.writes before x after split write
  rw [Call.siteAt_eq hcall hp] at owned
  obtain ⟨key, a, later, issued, owns, at', unexpired, excludes⟩ := owned
  refine ⟨call, p, hcall, hp, key, a, later, issued, owns, at', unexpired, ?_, fun apart =>
    excludes (Call.siteAt_key_ne_lock ⟨call, hc, p, hp, rfl, rfl⟩ apart)⟩
  obtain ⟨i, limiter⟩ := Call.limiter_of_site? hp
  refine unexpired.le ?_
  rw [Site.ttl, limiter]
  exact ttl i

/-! ## A slow write -/

/-- Two attempts, the second one after the lock of the first has run out. -/
def twoAttempts : List Delayed := [(0, .record 0 "w" "s"), (5500, .record 0 "w" "s")]

/-- The two attempts, of which the first one's write takes six seconds. -/
def slowWrite : Schedule (Except Failure CallResult) :=
  Call.sideBySide ⟨[{}]⟩ twoAttempts { faults := [{ kind := .set, latency := 6000 }] }

theorem run_slowWrite : slowWrite.run = slowWrite.after 10 :=
  Schedule.run_eq_after (Option.isNone_iff_eq_none.1 (by decide +kernel))

/-- A write that takes six seconds takes effect after its lock has run out at 5000, and overwrites
    what the lock's next owner has written at 5500. -/
theorem slow_write_outlives_lock :
    let s := (Step.run ⟨[{}]⟩ { faults := [{ kind := .set, latency := 6000 }] }
      (.parallel twoAttempts)).1
    s.accesses.map (fun a => (a.time, a.task, a.command.kind))
        = [(0, 0, .setIfAbsent), (0, 0, .get), (5500, 1, .setIfAbsent), (5500, 1, .get),
          (5500, 1, .set), (5500, 1, .deleteIfEqual), (6000, 0, .set), (6000, 0, .deleteIfEqual)]
      ∧ (Instances.limiter ⟨[{}]⟩ 0).config.lock.ttl = 5000
      ∧ (s.get? (attemptsKey "w" "s")).map Entry.value
        = some ((Window.record [1700000000000]).write .stored) := by
  show slowWrite.run.system.accesses.map _ = _ ∧ _ ∧ (slowWrite.run.system.get? _).map _ = _
  rw [run_slowWrite]
  decide +kernel

/-- Turns of two attempts at the pace of the slow write. -/
def slowTurns : Option (List Event × Schedule (Except Failure CallResult)) :=
  (Call.sideBySide ⟨[{}]⟩ twoAttempts {}).follow
    [(0, 0), (0, 0), (0, 0), (1, 5500), (1, 5500), (1, 5500), (1, 5500), (1, 5500), (0, 6000),
      (0, 6000)]

theorem isSome_slowTurns : slowTurns.isSome := by decide +kernel

/-- The slow write was issued before its lock ran out, though it takes effect after that. -/
theorem write_issued_unexpired_of_slowTurns :
    ∃ history final before x after, slowTurns = some (history, final)
      ∧ history = before ++ x :: after ∧ x.time = 6000 ∧ x.writes (attemptsKey "w" "s")
      ∧ ∃ a later issued, Owns (lockKey "w" "s") before 0 a later ∧ IssuedAt later 0 issued
        ∧ Unexpired 5000 a.time issued := by
  obtain ⟨⟨history, final⟩, follows⟩ := Option.isSome_iff_exists.1 isSome_slowTurns
  have slow : ∃ x ∈ (slowTurns.map (·.1)).getD [],
      x.task = 0 ∧ x.time = 6000 ∧ x.writes (attemptsKey "w" "s") := by decide +kernel
  rw [follows] at slow
  obtain ⟨x, hx, task, time, writes⟩ := slow
  obtain ⟨before, after, split⟩ := List.append_of_mem hx
  have free : ∀ c t, drifting.mayPass c t := fun _ _ => trivial
  have records : ∀ call ∈ twoAttempts, call.2.Records := by
    intro call hc
    rcases List.mem_pair.1 hc with rfl | rfl <;> exact ⟨0, "w", "s", rfl⟩
  have ttl : ∀ i, 1 ≤ ((⟨[{}]⟩ : Instances).limiter i).config.lock.ttl := by
    intro i
    cases i with
    | zero => decide
    | succ => exact (by decide : (1 : Int) ≤ 5000)
  obtain ⟨call, p, hcall, hp, -, a, later, issued, owns, at', unexpired, -⟩ :=
    write_issued_unexpired records ttl (by simp) (Schedule.run_of_follow free follows) split
      (Event.isWrite_of_writes writes)
  rw [task] at hcall owns at'
  cases hcall
  cases hp
  exact ⟨_, _, _, _, _, follows, split, time, writes, a, later, issued, owns, at', unexpired⟩

end Turnstile

import Turnstile.Proofs.Limiter.Filling

set_option autoImplicit false

/-! # Attempts that are not tracked

A record call that does not get its lock in any of its tries lets its attempt go untracked. Each of
these tries was refused at an instant of its own, at which another call acquired the lock, and no
call acquires it twice. So with `r` retries at least `r + 1` of the calls that run next to each
other are tracked, or all are (`untracked_le`). -/

namespace Turnstile

/-- Calls that record attempts of one pair, on instances that share a configuration and are equally
    skewed. -/
def Rivals (instances : Instances) (calls : List Delayed) (skews : List Int)
    (world subject : String) (config : LimiterConfig) (skew : Int) : Prop :=
  ∀ call ∈ calls, ∃ i w n, call.2 = .record i w n ∧ attemptsKey w n = attemptsKey world subject
    ∧ (instances.limiter i).config = config ∧ skews.getD i 0 = skew

/-! ## At rest -/

namespace Rivals

variable {instances : Instances} {calls : List Delayed} {skews : List Int} {world subject : String}
  {config : LimiterConfig} {skew : Int}
  (rivals : Rivals instances calls skews world subject config skew)

include rivals

theorem counting : ∀ call ∈ calls, call.2.Counting := by
  intro call hc
  obtain ⟨i, w, n, same, -⟩ := rivals call hc
  rw [same]
  trivial

/-- The site of a call. -/
theorem site {call : Delayed} (hc : call ∈ calls) : ∃ p, call.2.site? instances = some p
    ∧ p.records = true ∧ p.lock = lockKey world subject := by
  obtain ⟨i, w, n, same, key, -⟩ := rivals call hc
  refine ⟨⟨instances.limiter i, w, n, false, true, false⟩, ?_, rfl, lockKey_congr key⟩
  rw [same]
  rfl

/-- What stands in for the numbers that are no task's. -/
def standIn (world subject : String) (config : LimiterConfig) : Site :=
  ⟨⟨config, .skewed 0⟩, world, subject, false, false, false⟩

/-- What the calls share. -/
def filling (world subject : String) (config : LimiterConfig) (epoch : Int) (skews : List Int)
    (skew : Int) : Filling :=
  ⟨attemptsKey world subject, lockKey world subject, config, epoch, skews, skew⟩

theorem shares (epoch : Int) (i : Nat) :
    (filling world subject config epoch skews skew).Shares
      (Call.siteAt instances calls (standIn world subject config) i) := by
  have own : (filling world subject config epoch skews skew).Shares
      (standIn world subject config) := by
    refine ⟨?_, ?_, rfl, rfl, rfl, 0, rfl, fun h => by cases h⟩ <;>
    simp only [standIn, filling, Site.key, Site.lock]
  refine Call.siteAt_all own ?_ i
  intro call hc p hp
  obtain ⟨j, w, n, same, key, config', skew'⟩ := rivals call hc
  rw [same] at hp
  cases hp
  exact ⟨key, lockKey_congr key, config', rfl, rfl, j, rfl, fun _ => skew'⟩

theorem plain :
    Plain instances calls (Call.siteAt instances calls (standIn world subject config)) := by
  have shares := rivals.shares 0
  refine ⟨fun i h => ?_, fun i => (shares i).drops, fun i looks => ?_, fun i v => ?_,
    fun i j => ?_⟩
  · obtain ⟨call, hi, hp⟩ := Call.siteAt_of (Q := fun p => p.looks ∨ p.records)
      (by simp [standIn]) h
    exact ⟨call, hi, rivals.counting call (List.mem_of_getElem? hi), hp⟩
  · rw [(shares i).looks] at looks
    cases looks
  · obtain ⟨k, clock, -⟩ := (shares i).clock
    rw [clock]
    exact ⟨_, rfl⟩
  · rw [(shares i).key, (shares j).lock]
    exact attemptsKey_ne_lockKey world subject

/-- At the start every call will make its tries. -/
theorem atRest {pause : Int} (slept : pauseMillis? config.lock.retryDelay = some pause)
    (retries : 0 ≤ config.lock.retries) (s : System) :
    (Progress.regime (lockKey world subject) config.lock.retries pause).AtRest
      (Call.sideBySide instances calls s) fun _ => .delayed := by
  refine ⟨?_, fun _ _ => rfl⟩
  intro i t ht
  simp only [Call.sideBySide, Schedule.start, List.getElem?_mapIdx, List.getElem?_map,
    Option.map_eq_some_iff] at ht
  obtain ⟨_, ⟨call, hi, rfl⟩, rfl⟩ := ht
  refine ⟨rfl, rfl, fun time action answer => ⟨.ready 0, .wait, ?_⟩⟩
  show Proc.Obeys _ i _ (call.2.routine instances).run (Progress.ready 0)
  obtain ⟨j, w, n, same, key, rfl, -⟩ := rivals call (List.mem_of_getElem? hi)
  rw [same, Call.routine, ← lockKey_congr key]
  exact Routine.Obeys.map _ _ (Progress.recordFailure_obeys slept retries)
    fun outcome _ ends => ⟨outcome, rfl, ends⟩

end Rivals

/-! ## The end of the run -/

/-- What is known of rivals when all have ended: what was done, who wrote a timestamp, and how far
    each got. -/
structure Contest (f : Filling) (sites : Nat → Site) (starts : Nat → Int) (retries pause : Int)
    (calls : List Delayed) (results : List CallResult) (v : World) (written : List (Nat × Int))
    (stages : Nat → Stage) (progress : Nat → Progress) : Prop where
  filled : f.Filled sites v stages written
  reads : f.Reads v.history
  lock : ∀ i, (sites i).lock = f.lock
  records : ∀ i < calls.length, (sites i).records
  touched : ∀ i, Touched (sites i) v.history i (stages i)
  tasks : ∀ e ∈ v.history, e.task < calls.length
  beats : ∀ e ∈ v.history, (Tempo.mk f.lock (starts e.task) retries pause).Beat e.time
  tried : ∀ i, (Tempo.mk f.lock (starts i) retries pause).Tried v.history i (progress i)
  vacant : ∀ i, calls.length ≤ i → stages i = .delayed
  ended : ∀ i < calls.length, ∃ outcome : Except Failure Bool,
    results[i]? = some (CallResult.ofExcept (outcome.map .flag))
      ∧ Site.RecordEnds outcome (stages i) ∧ Progress.Ends outcome (progress i)

namespace Contest

variable {f : Filling} {sites : Nat → Site} {starts : Nat → Int} {retries pause : Int}
  {calls : List Delayed} {results : List CallResult} {v : World} {written : List (Nat × Int)}
  {stages : Nat → Stage} {progress : Nat → Progress}

/-- What became of an attempt, by the outcome that its call counted. -/
inductive Fate (f : Filling) (starts : Nat → Int) (retries pause : Int) (v : World)
    (written : List (Nat × Int)) (i : Nat) : AttemptOutcome → Prop where
  | allowed (wrote : i ∈ written.map Prod.fst) : Fate f starts retries pause v written i .allowed
  | rateLimited (absent : i ∉ written.map Prod.fst)
      (full : f.Within v.history → f.config.cap ≤ written.length) :
      Fate f starts retries pause v written i .rateLimited
  | failOpen (absent : i ∉ written.map Prod.fst)
      (refused : ∀ k : Nat, (k : Int) ≤ retries →
        RefusedAt f.lock v.history i (starts i + k * pause))
      (never : ∀ t, ¬ AcquiredAt f.lock v.history i t) :
      Fate f starts retries pause v written i .failOpen

variable (contest : Contest f sites starts retries pause calls results v written stages progress)

include contest

/-- No call holds its lock any more. -/
theorem unheld (i : Nat) : (stages i).hold? = none := by
  by_cases lt : i < calls.length
  · obtain ⟨outcome, -, ends, -⟩ := contest.ended i lt
    generalize stages i = stage at ends
    cases ends <;> rfl
  · rw [contest.vacant i (by omega)]
    rfl

/-- A call that acquired its lock touched its record then. -/
theorem touches {i : Nat} {t : Int} (acquired : AcquiredAt f.lock v.history i t) :
    (i, t) ∈ touchesOf v.history := by
  obtain ⟨e, he, rfl, rfl, acquires⟩ := acquired
  have readable := (contest.reads e he acquires).monotonic
  rcases (contest.touched e.task).forth (contest.records _ (contest.tasks e he)) e.time
    ⟨e, he, rfl, rfl, (contest.lock e.task).symm ▸ acquires⟩ readable with touched | ⟨_, held, -⟩
  · exact touched
  · rw [contest.unheld] at held
    cases held

/-- No call acquires its lock twice. -/
theorem acquired_once {i : Nat} {t u : Int} (ht : AcquiredAt f.lock v.history i t)
    (hu : AcquiredAt f.lock v.history i u) : t = u := by
  have same := List.inj_on_of_nodup_map (nodup_touchesOf v.history) (contest.touches ht)
    (contest.touches hu) rfl
  exact congrArg Prod.snd same

/-- Every call has counted one outcome, which tells its result and what became of its attempt. -/
theorem exists_fate {i : Nat} (lt : i < calls.length) :
    ∃ o, outcomesOf v.history i = [o] ∧ results[i]? = some (.flag (decide (o = .rateLimited)))
      ∧ Fate f starts retries pause v written i o := by
  obtain ⟨outcome, result, ends, progressed⟩ := contest.ended i lt
  have place := contest.filled.place i
  have tried := contest.tried i
  generalize hs : stages i = stage at ends place
  generalize progress i = st at progressed tried
  cases ends with
  | finished outcome =>
    cases place with
    | allowed mine counted =>
      -- The outcome that it is known to have counted is the only one.
      obtain ⟨e, he, task, counts⟩ := counted
      have among : .allowed ∈ outcomesOf v.history i := by
        refine List.mem_filterMap.2 ⟨e, List.mem_filter.2 ⟨he, by simpa using task⟩, ?_⟩
        obtain ⟨time, _, effect, action, answer⟩ := e
        cases effect with
        | countOutcome o => exact congrArg some (of_decide_eq_true counts)
        | _ => cases counts
      rcases progressed false rfl with rfl | ⟨rfl, -⟩ | ⟨o, -, rfl, -⟩
      · exact tried.elim
      · rw [tried.2.1] at among
        simp at among
      · have same := among
        rw [tried.2.1, List.mem_singleton] at same
        subst same
        exact ⟨.allowed, tried.2.1, result, .allowed mine⟩
    | limited absent full =>
      rcases progressed true rfl with rfl | ⟨-, ⟨⟩⟩ | ⟨o, -, rfl, same⟩
      · exact tried.elim
      · have same : o = .rateLimited := of_decide_eq_true same.symm
        subst same
        exact ⟨.rateLimited, tried.2.1, result, .rateLimited absent full⟩
  | failed f => exact place.elim
  | trying token again =>
    have never : ∀ t, ¬ AcquiredAt f.lock v.history i t := by
      intro t acquired
      refine (contest.touched i).fresh ?_ _ (contest.touches acquired) rfl
      rw [hs]
      rfl
    rcases progressed false rfl with rfl | ⟨rfl, -⟩ | ⟨o, -, rfl, -⟩
    · exact tried.elim
    · exact ⟨.failOpen, tried.2.1, result, .failOpen place tried.2.2 never⟩
    · obtain ⟨t, acquired⟩ := tried.2.2
      exact absurd acquired (never t)

end Contest

/-! ## Counting -/

/-- The outcome that a call has counted; what stands for one that has not counted any does not
    matter. -/
def outcomeOf (h : List Event) (i : Nat) : AttemptOutcome := (outcomesOf h i).headD .failOpen

/-- The outcomes of the calls, in their order. -/
def fates (h : List Event) (n : Nat) : List AttemptOutcome := (List.range n).map (outcomeOf h)

@[simp] theorem length_fates (h : List Event) (n : Nat) : (fates h n).length = n := by
  simp [fates]

theorem count_fates (h : List Event) (n : Nat) (o : AttemptOutcome) :
    (fates h n).count o
      = ((Finset.range n).filter fun i => outcomeOf h i = o).card := by
  rw [fates]
  induction n with
  | zero => rfl
  | succ n ih =>
    rw [List.range_succ, List.map_append, List.count_append, ih, Finset.range_add_one,
      Finset.filter_insert, List.map_singleton, List.count_singleton]
    by_cases last : outcomeOf h n = o
    · rw [if_pos last, Finset.card_insert_of_notMem (by simp), if_pos (beq_iff_eq.2 last)]
    · rw [if_neg last, if_neg (mt beq_iff_eq.1 last)]
      rfl

/-- Every outcome is one of four. -/
theorem length_eq_counts (l : List AttemptOutcome) :
    l.length = l.count .allowed + l.count .rateLimited + l.count .failOpen + l.count .cleared := by
  induction l with
  | nil => rfl
  | cons o rest ih =>
    rw [List.length_cons, ih]
    cases o <;> simp <;> omega

namespace Contest

variable {f : Filling} {sites : Nat → Site} {starts : Nat → Int} {retries pause : Int}
  {calls : List Delayed} {results : List CallResult} {v : World} {written : List (Nat × Int)}
  {stages : Nat → Stage} {progress : Nat → Progress}
  (contest : Contest f sites starts retries pause calls results v written stages progress)

include contest

/-- What became of a call's attempt. -/
theorem fate {i : Nat} (lt : i < calls.length) :
    outcomesOf v.history i = [outcomeOf v.history i]
      ∧ results[i]? = some (.flag (decide (outcomeOf v.history i = .rateLimited)))
      ∧ Fate f starts retries pause v written i (outcomeOf v.history i) := by
  obtain ⟨o, counted, result, fate⟩ := contest.exists_fate lt
  have same : outcomeOf v.history i = o := by rw [outcomeOf, counted]; rfl
  rw [same]
  exact ⟨counted, result, fate⟩

/-- What became of the attempt of a call that has counted an outcome. -/
theorem fate_of {i : Nat} (lt : i < calls.length) {o : AttemptOutcome}
    (same : outcomeOf v.history i = o) : Fate f starts retries pause v written i o :=
  same ▸ (contest.fate lt).2.2

/-- The outcomes that were counted are those of the calls. -/
theorem count_counted (o : AttemptOutcome) :
    (v.history.filterMap Event.outcome?).count o = (fates v.history calls.length).count o := by
  rw [count_outcomes contest.tasks, count_fates, Finset.card_filter]
  refine Finset.sum_congr rfl fun i hi => ?_
  have one := (contest.fate (Finset.mem_range.1 hi)).1
  generalize outcomeOf v.history i = fate at one
  rw [one, List.count_singleton]
  by_cases same : fate = o <;> simp [same]

/-- No call drops a record. -/
theorem count_cleared : (fates v.history calls.length).count .cleared = 0 := by
  refine List.count_eq_zero.2 fun mem => ?_
  obtain ⟨i, hi, same⟩ := List.mem_map.1 mem
  cases contest.fate_of (List.mem_range.1 hi) same

/-- The calls whose attempts are allowed are those that wrote. -/
theorem count_allowed : (fates v.history calls.length).count .allowed = written.length := by
  have writers : (written.map Prod.fst).toFinset = (Finset.range calls.length).filter
      fun i => outcomeOf v.history i = .allowed := by
    ext i
    rw [List.mem_toFinset, Finset.mem_filter, Finset.mem_range]
    refine ⟨fun wrote => ?_, fun ⟨lt, allowed⟩ => ?_⟩
    · have lt : i < calls.length := by
        by_contra no
        have place := contest.filled.place i
        rw [contest.vacant i (by omega)] at place
        exact place wrote
      have fate := (contest.fate lt).2.2
      generalize outcomeOf v.history i = o at fate
      cases fate with
      | allowed => exact ⟨lt, rfl⟩
      | rateLimited absent | failOpen absent => exact absurd wrote absent
    · cases contest.fate_of lt allowed with
      | allowed wrote => exact wrote
  rw [count_fates, ← writers, List.toFinset_card_of_nodup contest.filled.nodup, List.length_map]

/-- Who is refused at every try is refused each time because another call acquired the lock, and
    these calls are all different and all tracked. -/
theorem retries_lt_card (tries : 0 ≤ retries) (slept : 1 ≤ pause) {i : Nat}
    (refused : ∀ k : Nat, (k : Int) ≤ retries →
      RefusedAt f.lock v.history i (starts i + k * pause)) :
    retries < ((Finset.range calls.length).filter
      fun j => ¬ outcomeOf v.history j = .failOpen).card := by
  have winner : ∀ k : Nat, (k : Int) ≤ retries →
      ∃ j, AcquiredAt f.lock v.history j (starts i + k * pause) := by
    intro k hk
    obtain ⟨e, he, -, time, refuses⟩ := refused k hk
    rw [← time]
    exact contest.filled.refused e he refuses
  choose! winner acquired using winner
  have bound : ∀ k ∈ Finset.range (retries.toNat + 1), (k : Int) ≤ retries := by
    intro k hk
    have := Finset.mem_range.1 hk
    omega
  have tracked : ∀ k ∈ Finset.range (retries.toNat + 1), winner k ∈
      (Finset.range calls.length).filter fun j => ¬ outcomeOf v.history j = .failOpen := by
    intro k hk
    obtain ⟨e, he, task, -⟩ := acquired k (bound k hk)
    have lt := task ▸ contest.tasks e he
    refine Finset.mem_filter.2 ⟨Finset.mem_range.2 lt, fun untracked => ?_⟩
    cases contest.fate_of lt untracked with
    | failOpen _ _ never => exact never _ (acquired k (bound k hk))
  have different : Set.InjOn winner (Finset.range (retries.toNat + 1)) := by
    intro k hk l hl same
    have instants := contest.acquired_once (acquired k (bound k hk))
      (same ▸ acquired l (bound l hl))
    have equal : (k : Int) * pause = l * pause := by omega
    exact_mod_cast Int.eq_of_mul_eq_mul_right (by omega) equal
  have others := Finset.card_le_card_of_injOn winner tracked different
  rw [Finset.card_range] at others
  omega

/-- **Who is not tracked was refused once for every try**, and each time another call acquired the
    lock. -/
theorem count_failOpen_le (tries : 0 ≤ retries) (slept : 1 ≤ pause) :
    ((fates v.history calls.length).count .failOpen : Int)
      ≤ max 0 (calls.length - retries - 1) := by
  rw [count_fates]
  rcases ((Finset.range calls.length).filter
    fun i => outcomeOf v.history i = .failOpen).eq_empty_or_nonempty with empty | ⟨i, hi⟩
  · rw [empty]
    exact Int.le_max_left _ _
  · obtain ⟨lt, same⟩ := Finset.mem_filter.1 hi
    cases contest.fate_of (Finset.mem_range.1 lt) same with
    | failOpen absent refused never =>
      have others := contest.retries_lt_card tries slept refused
      have split := Finset.card_filter_add_card_filter_not (s := Finset.range calls.length)
        fun j => outcomeOf v.history j = .failOpen
      rw [Finset.card_range] at split
      omega

/-- Within the window as many attempts are allowed as the cap admits of those that are tracked. -/
theorem count_allowed_eq (within : f.Within v.history) :
    ((fates v.history calls.length).count .allowed : Int)
      = min f.config.cap (calls.length - (fates v.history calls.length).count .failOpen) := by
  have few := contest.filled.few within
  have all := length_eq_counts (fates v.history calls.length)
  rw [length_fates, contest.count_cleared] at all
  have full : 0 < (fates v.history calls.length).count .rateLimited →
      f.config.cap ≤ written.length := by
    intro some
    obtain ⟨i, hi, same⟩ := List.mem_map.1 (List.count_pos_iff.1 some)
    cases contest.fate_of (List.mem_range.1 hi) same with
    | rateLimited _ full => exact full within
  rw [← contest.count_allowed] at few full
  omega

end Contest

/-! ## The whole step -/

/-- When the calls start. -/
def startOf (calls : List Delayed) (s : System) (i : Nat) : Int :=
  s.elapsed + ((calls[i]?).map Prod.fst).getD 0

section

variable {instances : Instances} {calls : List Delayed} {s s' : System} {results : List CallResult}
  {world subject : String} {config : LimiterConfig} {skew pause : Int} {accesses : List Access}

/-- Where the clocks can be read whenever the lock is acquired, a prompt run of rivals fills the
    record up. -/
theorem Rivals.exists_filled (rivals : Rivals instances calls s.skews world subject config skew)
    (cap : 1 ≤ config.cap) (ttl : 1 ≤ config.lock.ttl) (keep : 1 ≤ config.recordSeconds)
    (none : s.faults = []) {m : Int} {h : List Event} {c : Schedule (Except Failure CallResult)}
    (record : s.store.get? m (attemptsKey world subject) = Option.none)
    (lock : s.store.get? m (lockKey world subject) = Option.none)
    (trace : Schedule.Run Schedule.prompt
      { Call.sideBySide instances calls s with system := { s with elapsed := m } } h c)
    (reads : (filling world subject config s.epoch s.skews skew).Reads h) :
    ∃ stages written,
      (filling world subject config s.epoch s.skews skew).Filled
        (Call.siteAt instances calls (standIn world subject config)) (.of c.system h) stages written
      ∧ (∀ i, Touched (Call.siteAt instances calls (standIn world subject config) i) h i (stages i))
      ∧ (Call.regime instances calls (standIn world subject config) Schedule.prompt
          (· = .perform)).AtRest c stages := by
  have sites : ∀ call ∈ calls, (call.2.site? instances).isSome := by
    intro call hc
    obtain ⟨p, hp, -⟩ := rivals.site hc
    rw [hp]
    rfl
  have rest : (Call.regime instances calls (standIn world subject config) Schedule.prompt
      (· = .perform)).AtRest (Call.sideBySide instances calls s) fun _ => .delayed :=
    Call.atRest_sideBySide (by rfl) sites s
  have shares := rivals.shares s.epoch
  have tame : ∀ f ∈ s.faults, f.action = .perform := by
    rw [none]
    exact fun f hf => absurd hf List.not_mem_nil
  obtain ⟨stages, ⟨⟨-, touched⟩, filled⟩, ended, -⟩ := Schedule.Run.invariant
    (r := Call.regime instances calls (standIn world subject config) Schedule.prompt
      (· = .perform))
    (Filling.keeps (f := filling world subject config s.epoch s.skews skew) (s := s)
      rivals.counting rivals.plain ⟨cap, ttl, keep, attemptsKey_ne_lockKey world subject⟩ shares)
    trace ⟨linear_start none m, fun _ => ⟨[], .start rfl rfl (fun _ => rfl) rfl
      (fun t ht => Store.get?_eq_none_later ht record)
      (fun t ht => Store.get?_eq_none_later ht lock) (Int.le_trans (by decide) cap)⟩⟩
    ⟨rest.1, rest.2⟩ tame
  obtain ⟨written, filled⟩ := filled reads
  exact ⟨stages, written, filled, touched, ended⟩

/-- In a prompt run in which all comes as soon as it can, rivals make their tries whole pauses after
    their starts. -/
theorem Rivals.exists_tried (rivals : Rivals instances calls s.skews world subject config skew)
    (retries : 0 ≤ config.lock.retries) (slept : pauseMillis? config.lock.retryDelay = some pause)
    (positive : 1 ≤ pause) (none : s.faults = []) {m : Int} {h : List Event}
    {c : Schedule (Except Failure CallResult)}
    (trace : Schedule.Run Schedule.prompt
      { Call.sideBySide instances calls s with system := { s with elapsed := m } } h c)
    (each : Each (Punctual (startOf calls s)) h) :
    ∃ progress : Nat → Progress, (∀ e ∈ h, e.effect.own)
      ∧ (∀ e ∈ h, (Tempo.mk (lockKey world subject) (startOf calls s e.task) config.lock.retries
          pause).Beat e.time)
      ∧ (∀ i, (Tempo.mk (lockKey world subject) (startOf calls s i) config.lock.retries
          pause).Tried h i (progress i))
      ∧ (Progress.regime (lockKey world subject) config.lock.retries pause).AtRest c progress := by
  have rest := rivals.atRest slept retries s
  have tame : ∀ f ∈ s.faults, f.action = .perform := by
    rw [none]
    exact fun f hf => absurd hf List.not_mem_nil
  obtain ⟨progress, ⟨own, inTime⟩, ended, -⟩ := Schedule.Run.invariant
    (r := Progress.regime (lockKey world subject) config.lock.retries pause)
    (Progress.keeps (startOf calls s) (Int.le_trans (by decide) positive) retries) trace
    (Progress.keeps_start (startOf calls s) _ rfl) ⟨rest.1, rest.2⟩ tame
  obtain ⟨beats, tried⟩ := inTime each
  exact ⟨progress, own, beats, tried, ended⟩

/-- A parallel step of rivals is a contest, and the counters tell of it. -/
theorem exists_contest (rivals : Rivals instances calls s.skews world subject config skew)
    (cap : 1 ≤ config.cap) (ttl : 1 ≤ config.lock.ttl) (keep : 1 ≤ config.recordSeconds)
    (retries : 0 ≤ config.lock.retries) (slept : pauseMillis? config.lock.retryDelay = some pause)
    (positive : 1 ≤ pause) (none : s.faults = [])
    (absent : ∀ d ∈ 0 :: calls.map Prod.fst,
      s.store.get? (s.elapsed + d) (attemptsKey world subject) = Option.none
        ∧ s.store.get? (s.elapsed + d) (lockKey world subject) = Option.none)
    (run : Step.run instances s (.parallel calls) = (s', .several results))
    (commands : s'.accesses = s.accesses ++ accesses)
    (readable : ∀ a ∈ accesses, a.acquires (lockKey world subject) →
      Register.Readable s.epoch skew a.time) :
    ∃ h written stages progress,
      Contest (Rivals.filling world subject config s.epoch s.skews skew)
        (Call.siteAt instances calls (Rivals.standIn world subject config)) (startOf calls s)
        config.lock.retries pause calls results (.of s' h) written stages progress
      ∧ (∀ o : AttemptOutcome, s'.metrics.outcomes.count o.name
          = s.metrics.outcomes.count o.name + (h.filterMap Event.outcome?).count o)
      ∧ (h = [] ∨ ∃ e ∈ h, e.time = s'.elapsed) ∧ results.length = calls.length := by
  obtain ⟨m, h, first, trace, each⟩ :=
    Schedule.exists_prompt_run rfl rfl (rivals.atRest slept retries s) none
  have starts : (fun i => s.elapsed
      + (((calls.map (Call.process instances))[i]?).map Prod.fst).getD 0) = startOf calls s := by
    funext i
    rw [startOf, List.getElem?_map, Option.map_map]
    rfl
  rw [starts] at each
  -- At the instant at which the first call starts there is neither a record nor a lock.
  have empty : s.store.get? m (attemptsKey world subject) = Option.none
      ∧ s.store.get? m (lockKey world subject) = Option.none := by
    rcases first with rfl | ⟨p, hp, rfl⟩
    · have := absent 0 List.mem_cons_self
      rwa [Int.add_zero] at this
    · obtain ⟨call, hc, rfl⟩ := List.mem_map.1 hp
      exact absent call.1 (List.mem_cons_of_mem _ (List.mem_map_of_mem hc))
  obtain ⟨progress, own, beats, tried, ended'⟩ :=
    rivals.exists_tried retries slept positive none trace each
  have closed : ∀ s s', ¬ (Schedule.prompt (α := Except Failure CallResult)).outside s s' :=
    fun _ _ change => change
  have commands' := trace.accesses fun _ _ change => absurd change (closed _ _)
  have counters := trace.outcomes (fun _ _ change => absurd change (closed _ _)) own
  have length : (Call.sideBySide instances calls s).run.tasks.length = calls.length :=
    trace.length_tasks.trans (by simp [Schedule.start])
  cases run
  have same : accesses = h.filterMap Event.access? :=
    List.append_cancel_left (commands.symm.trans commands')
  have reads : (Rivals.filling world subject config s.epoch s.skews skew).Reads h := by
    intro e he acquires
    obtain ⟨a, ha, -, time, acquires⟩ := acquiredAt_iff.1 ⟨e, he, rfl, rfl, acquires⟩
    exact time ▸ readable a (same ▸ ha) acquires
  obtain ⟨stages, written, filled, touched, ended⟩ :=
    rivals.exists_filled cap ttl keep none empty.1 empty.2 trace reads
  have finished := Schedule.step?_run (Call.sideBySide instances calls s)
  refine ⟨h, written, stages, progress, ⟨filled, reads,
    fun i => (rivals.shares s.epoch i).lock, ?_, touched, fun e he => ?_, beats, tried,
    fun i hi => ?_, fun i lt => ?_⟩, counters,
    trace.eq_nil_or_exists_time closed, ?_⟩
  · intro i lt
    obtain ⟨p, hp, records, -⟩ := rivals.site (List.getElem_mem lt)
    rw [Call.siteAt_eq (List.getElem?_eq_getElem lt) hp]
    exact records
  · obtain ⟨call, hi⟩ := Call.exists_call (s := s) trace rfl he
    exact (List.getElem?_eq_some_iff.1 hi).1
  · exact ended.2 i (List.getElem?_eq_none_iff.2 (length.trans_le hi))
  · obtain ⟨result, there, call, hi, ends⟩ :=
      Schedule.atRest_ended ended finished (length.symm ▸ lt : i < _)
    obtain ⟨_, there', outcome, rfl, progressed⟩ :=
      Schedule.atRest_ended ended' finished (length.symm ▸ lt : i < _)
    obtain rfl := Option.some.inj (there.symm.trans there')
    obtain ⟨j, w, n, same, -⟩ := rivals call (List.mem_of_getElem? hi)
    rw [same] at ends
    obtain ⟨outcome', same, ends⟩ := ends
    have equal : outcome = outcome' := by
      cases outcome <;> cases outcome' <;> cases same <;> rfl
    refine ⟨outcome, ?_, equal ▸ ends, progressed⟩
    rw [List.getElem?_map]
    exact congrArg (Option.map _) there
  · rw [List.length_map]
    exact (Schedule.length_results (Schedule.not_waiting_of_step?_eq_none finished)).trans length

/-- All is done within the window, when all tries lie close enough to each other. -/
theorem Contest.within {sites : Nat → Site} {retries : Int} {f : Filling} {v : World}
    {written : List (Nat × Int)} {stages : Nat → Stage} {progress : Nat → Progress}
    (contest : Contest f sites (startOf calls s) retries pause calls results v written stages
      progress) (positive : 0 ≤ pause)
    (near : ∀ c ∈ calls, ∀ d ∈ calls, f.Near c.1 (d.1 + retries * pause)) :
    f.Within v.history := by
  have bounds : ∀ e ∈ v.history, ∃ c ∈ calls, s.elapsed + c.1 ≤ e.time
      ∧ e.time ≤ s.elapsed + c.1 + retries * pause := by
    intro e he
    obtain ⟨n, le, time⟩ := contest.beats e he
    have le : (n : Int) ≤ retries := le
    have time : e.time = startOf calls s e.task + n * pause := time
    obtain ⟨c, there⟩ : ∃ c, calls[e.task]? = some c :=
      ⟨_, List.getElem?_eq_getElem (contest.tasks e he)⟩
    have start : startOf calls s e.task = s.elapsed + c.1 := by
      rw [startOf, there]
      rfl
    have low := Int.mul_nonneg (Int.natCast_nonneg n) positive
    have high := Int.mul_le_mul_of_nonneg_right le positive
    rw [start] at time
    exact ⟨c, List.mem_of_getElem? there, by omega, by omega⟩
  intro a ha b hb
  obtain ⟨c, hc, low, -⟩ := bounds a ha
  obtain ⟨d, hd, -, high⟩ := bounds b hb
  have := near c hc d hd
  exact ⟨by have := this.1; omega, by have := this.2; omega⟩

/-- What the record holds at the end. -/
theorem Contest.stored {sites : Nat → Site} {starts : Nat → Int} {retries : Int} {f : Filling}
    {v : World} {written : List (Nat × Int)} {stages : Nat → Stage} {progress : Nat → Progress}
    (contest : Contest f sites starts retries pause calls results v written stages progress)
    (within : f.Within v.history) (last : v.history = [] ∨ ∃ e ∈ v.history, e.time = v.now) :
    (v.store.get? v.now f.key).map Entry.value = if written.map Prod.snd = [] then none
      else some ((Window.record (written.map Prod.snd)).write .stored) := by
  rcases contest.filled.holds with ⟨rfl, empty⟩ | ⟨some, kept, -, all, e, he, stored⟩
  · rw [empty v.now (Int.le_refl _)]
    rfl
  · obtain ⟨d, hd, now⟩ := last.resolve_left (List.ne_nil_of_mem he)
    have live := (within e he d hd).2
    rw [stored v.now (Int.le_refl _), Option.filter_some, if_pos, all within,
      if_neg (by simpa using some)]
    · rfl
    · simp only [Entry.isLive, Option.all_some, decide_eq_true_eq]
      omega

end

/-! ## On fixed inputs -/

/-- Three attempts at once. -/
def threeRivals : List Delayed :=
  [(0, .record 0 "w" "s"), (0, .record 0 "w" "s"), (0, .record 0 "w" "s")]

/-- One attempt is allowed in a window, and the lock is tried for twice. -/
def twoTries : LimiterConfig where
  cap := 1
  lock := { ttl := 5000, retries := 1, retryDelay := 100 }

/-- The three attempts next to each other. -/
def rivalsAtOnce : Schedule (Except Failure CallResult) :=
  Call.sideBySide ⟨[twoTries]⟩ threeRivals {}

theorem run_rivalsAtOnce : rivalsAtOnce.run = rivalsAtOnce.after 30 :=
  Schedule.run_eq_after (Option.isNone_iff_eq_none.1 (by decide +kernel))

/-- Two attempts at once. -/
def twoRivals : List Delayed := [(0, .record 0 "w" "s"), (0, .record 0 "w" "s")]

/-- A retry delay beyond the range of the timer. -/
def hugeDelay : LimiterConfig := { lock := { ttl := 5000, retries := 1, retryDelay := 10 ^ 400 } }

/-- A retry delay that the timer rounds up to the window. -/
def roundedDelay : LimiterConfig where
  cap := 1
  windowSeconds := 10 ^ 14
  recordSeconds := 10 ^ 14 + 100
  lock := { ttl := 5000, retries := 1, retryDelay := 10 ^ 17 - 1 }

/-- The two attempts next to each other run to their end in as many steps as it takes. -/
theorem run_twoRivals (config : LimiterConfig) (n : Nat)
    (finished : (((Call.sideBySide ⟨[config]⟩ twoRivals {}).after n).step?).isNone) :
    (Step.run ⟨[config]⟩ {} (.parallel twoRivals)).1
      = ((Call.sideBySide ⟨[config]⟩ twoRivals {}).after n).system := by
  rw [← Schedule.run_eq_after (Option.isNone_iff_eq_none.1 finished)]
  rfl

end Turnstile

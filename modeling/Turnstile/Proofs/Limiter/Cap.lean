import Turnstile.Proofs.Limiter.Deeds
import Turnstile.Proofs.Limiter.Exclusion
import Turnstile.Proofs.Limiter.Regime

set_option autoImplicit false

/-! # The cap under concurrency

Limiters that share a configuration count the attempts of one pair together. However their calls
interleave and however long commands take, no interval a little shorter than the window holds the
acquisitions of more attempts than the cap allows.

The invariant keeps, beside the run, the list of the deeds done so far. Under a lock that has not
run out nothing is added to it, so what a call read still tells of all the deeds that are near. -/

namespace Turnstile

/-! ## The terms of a run -/

/-- Clocks drift: the surroundings may set every clock anew, and change nothing else. -/
def drifting : Setting (Except Failure CallResult) where
  outside s s' := ∃ skews, s' = { s with skews }

/-- No two clocks that were read differ by more than `d`, each taken relative to the instant. -/
def Steady (d : Int) (h : List Event) : Prop :=
  ∀ e ∈ h, ∀ e' ∈ h, ∀ x ∈ e.offset?, ∀ y ∈ e'.offset?, x - y ≤ d

/-- Every write of the record takes effect before the lock of its own call runs out. -/
def Timely (key lock : String) (ttl : Int) (h : List Event) : Prop :=
  ∀ e ∈ h, e.writes key → ∀ a ∈ h, a.task = e.task → a.acquires lock → e.time < a.time + ttl

instance (d : Int) (h : List Event) : Decidable (Steady d h) := by
  unfold Steady
  infer_instance

instance (key lock : String) (ttl : Int) (h : List Event) : Decidable (Timely key lock ttl h) := by
  unfold Timely
  infer_instance

theorem Steady.prefix {d : Int} {h k : List Event} (steady : Steady d (h ++ k)) : Steady d h :=
  fun e he e' he' => steady e (by simp [he]) e' (by simp [he'])

theorem Timely.prefix {key lock : String} {ttl : Int} {h k : List Event}
    (timely : Timely key lock ttl (h ++ k)) : Timely key lock ttl h :=
  fun e he hw a ha => timely e (by simp [he]) hw a (by simp [ha])

/-- What the calls of a run share: the keys of record and lock, the configuration, and by how much
    their clocks may differ. -/
structure Terms where
  key : String
  lock : String
  config : LimiterConfig
  drift : Int

namespace Terms

variable (t : Terms)

/-- Deeds are counted together when their locks were acquired in a time that is shorter than the
    window by the drift. -/
def span : Int := t.config.windowSeconds * 1000 - t.drift

/-- A call goes by the terms. -/
structure Governs (p : Site) : Prop where
  key : p.key = t.key
  lock : p.lock = t.lock
  config : p.limiter.config = t.config
  drops : p.drops = false

/-! ## The invariant -/

/-- The clock was read as `now` at the instant `since`. -/
def Read (h : List Event) (since now : Int) : Prop := ∃ e ∈ h, e.offset? = some (now - since)

/-- What holds of the deeds so far. Where the newest one's record is still kept, it is live and
    tells of all the deeds that were near. -/
structure Ledger (deeds : List Deed) (v : World) : Prop where
  entry : ∀ e older, deeds = e :: older → v.now < e.time + t.config.recordSeconds * 1000 →
    ∃ kept, (Window.record kept).integersFit
      ∧ v.store.get? v.now t.key = some ⟨(Window.record kept).write .stored,
          some (e.time + t.config.recordSeconds * 1000)⟩
      ∧ ((deeds.filter (Deed.near t.span e.since)).map Deed.stamp).Sublist kept.reverse
  past : ∀ e ∈ deeds, e.since ≤ e.time ∧ e.time ≤ v.now
  newest : ∀ e older, deeds = e :: older → ∀ d ∈ deeds, d.time ≤ e.time
  read : ∀ e ∈ deeds, Read v.history e.since e.stamp
  acquired : ∀ e ∈ deeds, ∀ a ∈ v.history, a.task = e.task → a.acquires t.lock → a.time = e.since
  capped : Capped t.span t.config.cap deeds
  allowed : ∀ c ∈ v.history, c.counts .allowed → ∃ e ∈ deeds, e.task = c.task

/-- What holds of a call under its lock by how far it got. -/
def PhaseOk (deeds : List Deed) (v : World) (since : Int) : Phase → Prop
  | .granted | .begun _ => since = v.now
  | .timed _ now => Read v.history since now
  | .room _ now recent => Read v.history since now ∧ Fair t.span t.config.cap since deeds recent
  | .ready timestamps => (Window.record timestamps).integersFit ∧ ∃ recent now,
      timestamps = recent ++ [now] ∧ Read v.history since now
      ∧ Fair t.span t.config.cap since deeds recent
  | .written | .closing _ => True

/-- What holds of a call that has acquired no lock so far. -/
structure Early (deeds : List Deed) (v : World) (i : Nat) : Prop where
  unlocked : ∀ a ∈ v.history, a.task = i → a.acquires t.lock = false
  new : ∀ e ∈ deeds, e.task ≠ i

/-- What holds of a call under its lock, as long as that has not run out. -/
structure Inside (deeds : List Deed) (v : World) (i : Nat) (hold : Hold) (phase : Phase) :
    Prop where
  since : ∃ a ∈ v.history, a.task = i ∧ a.acquires t.lock ∧ a.time = hold.since
  only : ∀ a ∈ v.history, a.task = i → a.acquires t.lock → a.time = hold.since
  written : phase = .written → ∃ e ∈ deeds, e.task = i
  latest : v.now < hold.since + t.config.lock.ttl → ∀ e ∈ deeds, e.since ≤ hold.since
  phase : v.now < hold.since + t.config.lock.ttl → t.PhaseOk deeds v hold.since phase

/-- What holds of a call by its stage. -/
def CallOk (deeds : List Deed) (v : World) (i : Nat) : Stage → Prop
  | .inside hold phase => t.Inside deeds v i hold phase
  | .finished _ | .failed _ => True
  | _ => t.Early deeds v i

/-! ## Events that write no record -/

variable {t} {deeds : List Deed} {v : World}

theorem Read.add {h : List Event} {since now : Int} (read : Read h since now) (e : Event) :
    Read (h ++ [e]) since now := by
  obtain ⟨r, hr, offset⟩ := read
  exact ⟨r, by simp [hr], offset⟩

theorem PhaseOk.add {since : Int} {phase : Phase} (h : t.PhaseOk deeds v since phase) (e : Event) :
    t.PhaseOk deeds (v.add e) since phase := by
  cases phase with
  | granted | begun => exact h
  | timed => exact Read.add h e
  | room => exact ⟨h.1.add e, h.2⟩
  | ready =>
    obtain ⟨fit, recent, now, rfl, read, fair⟩ := h
    exact ⟨fit, recent, now, rfl, read.add e, fair⟩
  | written | closing => trivial

/-- An event keeps the deeds as they are when it writes nothing under the key, is no acquisition of
    a call that did a deed, and counts none as allowed that did not. -/
theorem Ledger.add (led : t.Ledger deeds v) {e : Event}
    (store : (v.add e).store.get? v.now t.key = v.store.get? v.now t.key)
    (acquires : e.acquires t.lock → ∀ d ∈ deeds, d.task ≠ e.task)
    (counts : e.counts .allowed → ∃ d ∈ deeds, d.task = e.task) : t.Ledger deeds (v.add e) := by
  constructor
  · intro d older hd ht
    obtain ⟨kept, fit, live, told⟩ := led.entry d older hd ht
    exact ⟨kept, fit, store.trans live, told⟩
  · exact led.past
  · exact led.newest
  · intro d hd
    exact (led.read d hd).add e
  · intro d hd a ha task ha'
    rcases List.mem_append.1 ha with h | h
    · exact led.acquired d hd a h task ha'
    · rw [List.mem_singleton.1 h] at task ha'
      exact absurd task.symm (acquires ha' d hd)
  · exact led.capped
  · intro c hc hallowed
    rcases List.mem_append.1 hc with h | h
    · exact led.allowed c h hallowed
    · rw [List.mem_singleton.1 h] at hallowed ⊢
      exact counts hallowed

/-- An event of another task changes nothing for a call. -/
theorem CallOk.add {i : Nat} {stage : Stage} (h : t.CallOk deeds v i stage) {e : Event}
    (other : e.task ≠ i) : t.CallOk deeds (v.add e) i stage := by
  have old : ∀ a ∈ (v.add e).history, a.task = i → a ∈ v.history := by
    intro a ha task
    rcases List.mem_append.1 ha with h | h
    · exact h
    · rw [List.mem_singleton.1 h] at task
      exact absurd task other
  have early : t.Early deeds v i → t.Early deeds (v.add e) i :=
    fun h => ⟨fun a ha task => h.unlocked a (old a ha task) task, h.new⟩
  cases stage with
  | inside hold phase =>
    obtain ⟨a, ha, task, acquires, time⟩ := h.since
    exact ⟨⟨a, by simp [ha], task, acquires, time⟩,
      fun a ha task => h.only a (old a ha task) task, h.written, h.latest,
      fun unexpired => (h.phase unexpired).add e⟩
  | finished | failed => trivial
  | _ => exact early h

/-- A step under the lock that acquires nothing. -/
theorem Inside.step {i : Nat} {hold : Hold} {phase phase' : Phase}
    (h : t.Inside deeds v i hold phase) {e : Event} (acquires : e.acquires t.lock = false)
    (written : phase' = .written → ∃ d ∈ deeds, d.task = i)
    (ok : v.now < hold.since + t.config.lock.ttl → t.PhaseOk deeds v hold.since phase →
      t.PhaseOk deeds (v.add e) hold.since phase') :
    t.Inside deeds (v.add e) i hold phase' := by
  obtain ⟨a, ha, task, hacq, time⟩ := h.since
  refine ⟨⟨a, by simp [ha], task, hacq, time⟩, ?_, written, h.latest,
    fun unexpired => ok unexpired (h.phase unexpired)⟩
  intro b hb htask hb'
  rcases List.mem_append.1 hb with h' | h'
  · exact h.only b h' htask hb'
  · rw [List.mem_singleton.1 h', acquires] at hb'
    cases hb'

theorem Early.step {i : Nat} (h : t.Early deeds v i) {e : Event}
    (acquires : e.acquires t.lock = false) : t.Early deeds (v.add e) i := by
  refine ⟨?_, h.new⟩
  intro a ha task
  rcases List.mem_append.1 ha with h' | h'
  · exact h.unlocked a h' task
  · rw [List.mem_singleton.1 h']
    exact acquires

/-- A call that holds no lock after a step that acquires none. -/
theorem Early.callOk {i : Nat} (h : t.Early deeds v i) {stage : Stage} (free : stage.hold? = none) :
    t.CallOk deeds v i stage := by
  cases stage with
  | inside hold phase => cases free
  | finished | failed => trivial
  | _ => exact h

/-- A step that changes no stage and acquires nothing. -/
theorem CallOk.stay {i : Nat} {stage : Stage} (h : t.CallOk deeds v i stage) {e : Event}
    (acquires : e.acquires t.lock = false) : t.CallOk deeds (v.add e) i stage := by
  cases stage with
  | inside hold phase => exact Inside.step h acquires h.written fun _ ok => ok.add e
  | finished | failed => trivial
  | _ => exact Early.step h acquires

/-! ## Reading the record -/

/-- What a call reads under its lock tells of all deeds that are near. -/
theorem read_told {p : Site} (governs : t.Governs p) (led : t.Ledger deeds v)
    (keep : t.config.windowSeconds * 1000 + t.config.lock.ttl ≤ t.config.recordSeconds * 1000)
    {since now : Int} (read : Read v.history since now) (steady : Steady t.drift v.history)
    (latest : ∀ d ∈ deeds, d.since ≤ since) (unexpired : v.now < since + t.config.lock.ttl)
    {reply : Except Failure Json} (answer : reply = (Command.perform v.now v.store (.get t.key)).2)
    {recent : List Int}
    (hr : (Site.stored reply).bind (fun value => p.limiter.recent value now) = .ok recent) :
    ((deeds.filter (Deed.near t.span since)).map Deed.stamp).Sublist recent.reverse := by
  cases hn : deeds.filter (Deed.near t.span since) with
  | nil => exact List.nil_sublist _
  | cons e more =>
    rw [← hn]
    obtain ⟨he, near⟩ := List.mem_filter.1 (hn ▸ List.mem_cons_self)
    have close : since < e.since + t.span := of_decide_eq_true near
    rw [span] at close
    obtain ⟨r, hr', offset⟩ := read
    -- The record of the newest deed is still kept, as long as a deed is near.
    have drift : now - since - (now - since) ≤ t.drift := steady r hr' r hr' _ offset _ offset
    obtain ⟨d, older, hd⟩ := List.exists_cons_of_ne_nil (List.ne_nil_of_mem he)
    have newest := led.newest d older hd e he
    have past := led.past e he
    obtain ⟨kept, fit, live, told⟩ := led.entry d older hd (by omega)
    have found : reply = .ok (.text ((Window.record kept).write .stored)) := by
      rw [answer]
      simp [Command.perform, live]
    rw [found, Site.stored_record fit] at hr
    have filtered : recent = kept.filter
        (Window.start now p.limiter.config.windowSeconds < ·) := Window.eq_of_recent_record hr
    rw [filtered, governs.config]
    refine told_filter told (latest d (hd ▸ List.mem_cons_self)) ?_
    intro o ho hnear
    obtain ⟨r', hr'', offset'⟩ := led.read o ho
    have apart : now - since - (o.stamp - o.since) ≤ t.drift :=
      steady r hr' r' hr'' _ offset _ offset'
    have hclose : since < o.since + t.span := of_decide_eq_true hnear
    rw [span] at hclose
    rw [Window.start]
    omega

/-- A call that has read the record under its lock goes on by fair timestamps. -/
theorem judge_ok {p : Site} (governs : t.Governs p) (led : t.Ledger deeds v)
    (keep : t.config.windowSeconds * 1000 + t.config.lock.ttl ≤ t.config.recordSeconds * 1000)
    {acquired : Binary64} {since now : Int} (read : Read v.history since now)
    (steady : Steady t.drift v.history) (latest : ∀ d ∈ deeds, d.since ≤ since)
    (unexpired : v.now < since + t.config.lock.ttl) {reply : Except Failure Json}
    (answer : reply = (Command.perform v.now v.store (.get t.key)).2) :
    t.PhaseOk deeds v since (p.judge acquired now reply) := by
  rw [Site.judge]
  split
  · next recent hr =>
    split
    · trivial
    · next full =>
      have room : (recent.length : Int) < t.config.cap := by
        simpa [Limiter.capReached, governs.config] using full
      exact ⟨read, read_told governs led keep read steady latest unexpired answer hr, room⟩
  · trivial

/-! ## Steps that write no record -/

/-- A step that writes no record leaves the one that is stored. -/
theorem get?_add_of_silent {p : Site} (governs : t.Governs p) (apart : t.key ≠ t.lock) {e : Event}
    {stage stage' : Stage} (step : p.Step stage e stage') (perform : e.action = .perform)
    (silent : e.writes t.key = false) (now : Int) :
    (v.add e).store.get? now t.key = v.store.get? now t.key := by
  have read : ∀ reply : Except Failure Json, ∀ time task,
      (v.add ⟨time, task, .command (.get p.key), .perform, reply⟩).store = v.store := by
    intro reply time task
    show (Command.perform v.now v.store (.get p.key)).1 = v.store
    rw [Command.perform]
    split <;> rfl
  have lock : ∀ c : Command, c.key? = some p.lock → c.key? ≠ some t.key := by
    intro c hc h
    rw [hc, Option.some.injEq, governs.lock] at h
    exact apart h.symm
  cases step with
  | look | judge =>
    cases perform
    rw [read]
  | contend | release =>
    refine World.get?_add_of_ne v _ _ (fun c hc => lock c ?_) now
    cases hc
    rfl
  | drop may =>
    rw [governs.drops] at may
    cases may
  | write => simp [Event.writes, governs.key] at silent
  | _ => rfl

/-- Only a try for the lock acquires it. -/
theorem trying_of_acquires {p : Site} {e : Event} {stage stage' : Stage}
    (step : p.Step stage e stage') (acquires : e.acquires t.lock) :
    ∃ token again, stage = .trying token again ∧ stage' = .inside ⟨token, e.time⟩ .granted := by
  cases step with
  | @contend token again time task action reply =>
    cases reply with
    | error f => simp [Event.acquires] at acquires
    | ok reply =>
      simp only [Event.acquires, Bool.and_eq_true] at acquires
      exact ⟨token, again, rfl, by rw [Site.tried, if_pos acquires.2]⟩
  | _ => simp [Event.acquires] at acquires

/-- Only a call that has written its record counts its attempt as allowed. -/
theorem written_of_counts {p : Site} {e : Event} {stage stage' : Stage}
    (step : p.Step stage e stage') (counts : e.counts .allowed) :
    ∃ hold, stage = .inside hold .written := by
  cases step with
  | @allow hold => exact ⟨hold, rfl⟩
  | count other => simp [Event.counts, other] at counts
  | _ => simp [Event.counts] at counts

theorem judge_ne_written (p : Site) (acquired : Binary64) (now : Int)
    (reply : Except Failure Json) : p.judge acquired now reply ≠ .written := by
  rw [Site.judge]
  split
  · split <;> simp
  · simp

theorem prepare_ne_written (p : Site) (acquired : Binary64) (timestamps : List Int)
    (reading : Except Failure Binary64) : p.prepare acquired timestamps reading ≠ .written := by
  fun_cases Site.prepare p acquired timestamps reading <;> simp

/-- After the age of its handle was read, a call that goes on writes fair timestamps. -/
theorem prepare_ok {p : Site} {acquired : Binary64} {since now : Int} {recent : List Int}
    (ok : t.PhaseOk deeds v since (.room acquired now recent)) (reading : Except Failure Binary64) :
    t.PhaseOk deeds v since (p.prepare acquired (recent ++ [now]) reading) := by
  fun_cases Site.prepare p acquired (recent ++ [now]) reading with
  | case2 later _ fit => exact ⟨fit, recent, now, rfl, ok⟩
  | _ => trivial

/-- What a step that writes no record makes of the call that takes it. -/
theorem act {p : Site} (governs : t.Governs p)
    (keep : t.config.windowSeconds * 1000 + t.config.lock.ttl ≤ t.config.recordSeconds * 1000)
    (led : t.Ledger deeds v) {e : Event} {stage stage' : Stage}
    (ok : t.CallOk deeds v e.task stage) (admits : v.Admits e) (perform : e.action = .perform)
    (step : p.Step stage e stage') (silent : e.writes t.key = false)
    (steady : Steady t.drift v.history) : t.CallOk deeds (v.add e) e.task stage' := by
  obtain ⟨htime, answer⟩ := admits
  cases step with
  | log | count | pause => exact ok.stay rfl
  | wait => exact Early.step ok rfl
  | look => exact (Early.step ok rfl).callOk (Site.hold?_seen _).1
  | weigh => exact (Early.step ok rfl).callOk (Site.hold?_weigh _ _ _).1
  | drop may =>
    rw [governs.drops] at may
    cases may
  | draw may isOpen =>
    cases stage with
    | idle => exact Early.step ok rfl
    | weighed limited => exact Early.step ok rfl
    | _ => cases isOpen
  | @contend token again time task action reply =>
    cases htime
    cases reply with
    | error f =>
      refine (Early.step ok rfl).callOk ?_
      rw [Site.tried]
      split <;> rfl
    | ok reply =>
      by_cases granted : reply.truthy = true
      · rw [Site.tried, if_pos granted]
        have acquires : Event.acquires t.lock ⟨v.now, task, .command (.setIfAbsent p.lock
            (tokenText token) p.ttl), action, .ok reply⟩ = true := by
          simp [Event.acquires, governs.lock, granted]
        refine ⟨⟨_, List.mem_append_right _ (List.mem_singleton_self _), rfl, acquires, rfl⟩, ?_,
          (fun h => by cases h), ?_, fun _ => rfl⟩
        · intro a ha htask hacq
          rcases List.mem_append.1 ha with h | h
          · rw [Early.unlocked ok a h htask] at hacq
            cases hacq
          · rw [List.mem_singleton.1 h]
        · intro _ d hd
          have := led.past d hd
          show d.since ≤ v.now
          omega
      · rw [Site.tried, if_neg granted]
        exact Early.step ok (by simp [Event.acquires, granted])
  | @handle hold time task action reading =>
    cases reading with
    | error f => trivial
    | ok acquired => exact Inside.step ok rfl (fun h => by cases h) fun _ h => h
  | @time hold acquired time task action reading =>
    cases htime
    cases reading with
    | error f => exact Inside.step ok rfl (fun h => by cases h) fun _ _ => trivial
    | ok now =>
      refine Inside.step ok rfl (fun h => by cases h) fun _ h => ?_
      have since : hold.since = v.now := h
      refine ⟨_, List.mem_append_right _ (List.mem_singleton_self _), ?_⟩
      rw [since]
      rfl
  | judge =>
    cases perform
    refine Inside.step ok rfl (fun h => absurd h (judge_ne_written _ _ _ _)) fun unexpired h => ?_
    have answer' := answer
    simp only [World.Answers, FaultAction.apply, governs.key] at answer'
    exact (judge_ok governs led keep h steady (Inside.latest ok unexpired) unexpired answer').add _
  | prepare =>
    exact Inside.step ok rfl (fun h => absurd h (prepare_ne_written _ _ _ _))
      fun _ h => (prepare_ok h _).add _
  | write => simp [Event.writes, governs.key] at silent
  | allow => exact Inside.step ok rfl (fun h => by cases h) fun _ _ => trivial
  | release => trivial

/-! ## The step that writes a record -/

/-- A deed that is done in time, by fair timestamps, joins the others. -/
theorem Ledger.cons (led : t.Ledger deeds v) {i : Nat} {hold : Hold} {recent : List Int}
    {stamp : Int} (inside : t.Inside deeds v i hold (.ready (recent ++ [stamp])))
    (unexpired : v.now < hold.since + t.config.lock.ttl) (past : hold.since ≤ v.now) {e : Event}
    (acquires : e.acquires t.lock = false) (counts : e.counts .allowed = false)
    (entry : (v.add e).store.get? v.now t.key
      = some ⟨(Window.record (recent ++ [stamp])).write .stored,
          some (v.now + t.config.recordSeconds * 1000)⟩) :
    t.Ledger (⟨i, hold.since, stamp, v.now⟩ :: deeds) (v.add e) := by
  -- The lock has not run out, so that what the call has read is still all that there is.
  obtain ⟨fit, recent', now, same, read, fair⟩ := inside.phase unexpired
  obtain ⟨rfl, rfl⟩ : recent = recent' ∧ stamp = now := by simpa using same
  constructor
  · intro d older hd _
    obtain ⟨rfl, rfl⟩ := List.cons.inj hd
    exact ⟨recent ++ [stamp], fit, entry, fair.told_cons _⟩
  · intro d hd
    rcases List.mem_cons.1 hd with rfl | hd
    · exact ⟨past, Int.le_refl _⟩
    · exact led.past d hd
  · intro d older hd o ho
    obtain ⟨rfl, rfl⟩ := List.cons.inj hd
    rcases List.mem_cons.1 ho with rfl | ho
    · exact Int.le_refl _
    · exact (led.past o ho).2
  · intro d hd
    rcases List.mem_cons.1 hd with rfl | hd
    · exact read.add e
    · exact (led.read d hd).add e
  · intro d hd a ha task hacq
    have old : a ∈ v.history := by
      rcases List.mem_append.1 ha with h | h
      · exact h
      · rw [List.mem_singleton.1 h, acquires] at hacq
        cases hacq
    rcases List.mem_cons.1 hd with rfl | hd
    · exact inside.only a old task hacq
    · exact led.acquired d hd a old task hacq
  · exact fair.capped led.capped rfl
  · intro c hc hallowed
    rcases List.mem_append.1 hc with h | h
    · obtain ⟨d, hd, task⟩ := led.allowed c h hallowed
      exact ⟨d, List.mem_cons_of_mem _ hd, task⟩
    · rw [List.mem_singleton.1 h, counts] at hallowed
      cases hallowed

/-- A call that has done its deed may count it. -/
theorem Inside.done {i : Nat} {hold : Hold} {phase : Phase} (h : t.Inside deeds v i hold phase)
    {e : Event} (acquires : e.acquires t.lock = false) {d : Deed} (task : d.task = i)
    (since : d.since = hold.since) : t.Inside (d :: deeds) (v.add e) i hold .written := by
  have added : t.Inside deeds (v.add e) i hold (.closing (.ok false)) :=
    h.step acquires (fun h => by cases h) fun _ _ => trivial
  refine ⟨added.since, added.only, fun _ => ⟨d, List.mem_cons_self, task⟩, ?_, fun _ => trivial⟩
  intro unexpired o ho
  rcases List.mem_cons.1 ho with rfl | ho
  · exact Int.le_of_eq since
  · exact added.latest unexpired o ho

/-- Under its own lock, a call does not see another's deed. -/
theorem CallOk.cons {i : Nat} {stage : Stage} (ok : t.CallOk deeds v i stage) {e : Event} {d : Deed}
    (other : d.task ≠ i) (task : e.task = d.task)
    (expired : ∀ hold, stage.hold? = some hold → ¬v.now < hold.since + t.config.lock.ttl) :
    t.CallOk (d :: deeds) (v.add e) i stage := by
  have ok' := ok.add (task ▸ other)
  cases stage with
  | inside hold phase =>
    obtain ⟨since, only, written, -, -⟩ := ok'
    refine ⟨since, only, ?_, fun h => absurd h (expired hold rfl),
      fun h => absurd h (expired hold rfl)⟩
    intro h
    obtain ⟨o, ho, htask⟩ := written h
    exact ⟨o, List.mem_cons_of_mem _ ho, htask⟩
  | finished | failed => trivial
  | _ =>
    refine ⟨ok'.unlocked, ?_⟩
    intro o ho
    rcases List.mem_cons.1 ho with rfl | ho
    · exact other
    · exact ok'.new o ho

/-! ## Between two turns -/

/-- Time only lets records run out. -/
theorem Ledger.later (led : t.Ledger deeds v) {v' : World} (store : v'.store = v.store)
    (history : v'.history = v.history) (later : v.now ≤ v'.now) : t.Ledger deeds v' := by
  constructor
  · intro d older hd ht
    obtain ⟨kept, fit, live, told⟩ := led.entry d older hd (by omega)
    rw [store]
    exact ⟨kept, fit, Store.get?_later live (decide_eq_true ht), told⟩
  · intro d hd
    have := led.past d hd
    omega
  · exact led.newest
  · rw [history]
    exact led.read
  · rw [history]
    exact led.acquired
  · exact led.capped
  · rw [history]
    exact led.allowed

/-- Time may pass for a call that has read its clock under the lock, or is not under it. -/
theorem CallOk.later {i : Nat} {stage : Stage} (ok : t.CallOk deeds v i stage) {v' : World}
    (history : v'.history = v.history) (later : v.now ≤ v'.now)
    (settled : v'.now = v.now ∨ ∀ hold phase, stage = .inside hold phase →
      phase ≠ .granted ∧ ∀ acquired, phase ≠ .begun acquired) : t.CallOk deeds v' i stage := by
  have early : t.Early deeds v i → t.Early deeds v' i := by
    intro h
    refine ⟨?_, h.new⟩
    rw [history]
    exact h.unlocked
  cases stage with
  | inside hold phase =>
    obtain ⟨since, only, written, latest, hphase⟩ := ok
    refine ⟨history ▸ since, history ▸ only, written, fun h => latest (by omega), fun h => ?_⟩
    -- A lock that has not run out yet had not run out before either.
    have h' := hphase (by omega)
    cases phase with
    | granted =>
      rcases settled with same | settled
      · exact h'.trans same.symm
      · exact absurd rfl (settled hold _ rfl).1
    | begun acquired =>
      rcases settled with same | settled
      · exact h'.trans same.symm
      · exact absurd rfl ((settled hold _ rfl).2 acquired)
    | timed acquired now =>
      have read : Read v.history hold.since now := h'
      rw [← history] at read
      exact read
    | room acquired now recent => exact ⟨history ▸ h'.1, h'.2⟩
    | ready timestamps =>
      obtain ⟨fit, recent, now, rfl, read, fair⟩ := h'
      exact ⟨fit, recent, now, rfl, history ▸ read, fair⟩
    | written | closing => trivial
  | finished | failed => trivial
  | _ => exact early ok

/-! ## The run -/

variable {sites : Nat → Site} {stages : Nat → Stage}

/-- The invariant: locks exclude, and as long as clocks were steady and writes timely, the deeds
    done so far keep to the cap. -/
def Inv (t : Terms) (sites : Nat → Site) (v : World) (stages : Nat → Stage) : Prop :=
  Exclusive sites v stages
    ∧ (Steady t.drift v.history → Timely t.key t.lock t.config.lock.ttl v.history →
      ∃ deeds, t.Ledger deeds v ∧ ∀ i, t.CallOk deeds v i (stages i))

/-- A step that writes no record keeps the deeds. -/
theorem Ledger.act {p : Site} (governs : t.Governs p) (apart : t.key ≠ t.lock)
    (led : t.Ledger deeds v) {e : Event} {stage stage' : Stage}
    (ok : t.CallOk deeds v e.task stage) (perform : e.action = .perform)
    (step : p.Step stage e stage') (silent : e.writes t.key = false) :
    t.Ledger deeds (v.add e) := by
  refine led.add (get?_add_of_silent governs apart step perform silent _) ?_ ?_
  · intro acquires
    obtain ⟨token, again, rfl, -⟩ := trying_of_acquires step acquires
    exact ok.new
  · intro counts
    obtain ⟨hold, rfl⟩ := written_of_counts step counts
    exact ok.written rfl

/-- A step that writes a record in time keeps the invariant, with one more deed when the store takes
    the record. -/
theorem write_ok {p : Site} (governs : t.Governs p) (locks : ∀ i, (sites i).lock = t.lock)
    (ttls : ∀ i, (sites i).ttl = t.config.lock.ttl) (exclusive : Exclusive sites v stages)
    (led : t.Ledger deeds v) (ok : ∀ i, t.CallOk deeds v i (stages i)) {e : Event} {stage : Stage}
    (admits : v.Admits e) (perform : e.action = .perform) (step : p.Step (stages e.task) e stage)
    (writes : e.writes t.key) (timely : Timely t.key t.lock t.config.lock.ttl (v.add e).history) :
    ∃ deeds', t.Ledger deeds' (v.add e)
      ∧ ∀ i, t.CallOk deeds' (v.add e) i (Function.update stages e.task stage i) := by
  obtain ⟨htime, answer⟩ := admits
  generalize hs : stages e.task = before at step
  cases step with
  | @write hold timestamps time i action reply =>
    have inside : t.Inside deeds v i hold (.ready timestamps) := by
      have := ok i
      rw [show stages i = _ from hs] at this
      exact this
    have mine : (stages i).hold? = some hold := by rw [show stages i = _ from hs]; rfl
    have past : hold.since ≤ v.now := exclusive.past i hold mine
    -- The write is timely, and so it comes before the lock runs out.
    have unexpired : v.now < hold.since + t.config.lock.ttl := by
      obtain ⟨a, ha, task, acquires, since⟩ := inside.since
      have h := timely _ (List.mem_append_right _ (List.mem_singleton_self _)) writes a
        (List.mem_append_left _ ha) task acquires
      rw [since, htime] at h
      exact h
    obtain ⟨fit, recent, stamp, rfl, read, fair⟩ := inside.phase unexpired
    cases perform
    have keep : p.keep = t.config.recordSeconds := by rw [Site.keep, governs.config]
    have answered : reply = (Command.perform v.now v.store
        (.set p.key ((Window.record (recent ++ [stamp])).write .stored) p.keep)).2 := answer
    by_cases hk : t.config.recordSeconds ≤ 0
    · -- A record kept for no time at all is refused by the store.
      have performed : Command.perform v.now v.store
          (.set p.key ((Window.record (recent ++ [stamp])).write .stored) p.keep)
          = (v.store, .error Command.invalidExpiry) := by simp [Command.perform, keep, hk]
      have refused : reply = .error Command.invalidExpiry := by rw [answered, performed]
      refine ⟨deeds, led.add ?_ (fun h => by cases h) (fun h => by cases h), ?_⟩
      · simp [World.add, FaultAction.apply, performed]
      · intro j
        by_cases hj : j = i
        · subst hj
          rw [Function.update_self, refused]
          exact inside.step rfl (fun h => by cases h) fun _ _ => trivial
        · rw [Function.update_of_ne hj]
          exact (ok j).add (Ne.symm hj)
    · have performed : Command.perform v.now v.store
          (.set p.key ((Window.record (recent ++ [stamp])).write .stored) p.keep)
          = (v.store.put t.key ⟨(Window.record (recent ++ [stamp])).write .stored,
              some (v.now + t.config.recordSeconds * 1000)⟩, .ok (.bool true)) := by
        simp [Command.perform, keep, hk, governs.key]
      have kept : reply = .ok (.bool true) := by rw [answered, performed]
      refine ⟨⟨i, hold.since, stamp, v.now⟩ :: deeds,
        led.cons inside unexpired past rfl rfl ?_, ?_⟩
      · have live : v.now < v.now + t.config.recordSeconds * 1000 := by omega
        simp [World.add, FaultAction.apply, performed, Store.get?_put, Entry.isLive, live]
      · intro j
        by_cases hj : j = i
        · subst hj
          rw [Function.update_self, kept]
          exact inside.done rfl rfl rfl
        · rw [Function.update_of_ne hj]
          -- No other call holds the lock meanwhile, and so none has read what has changed.
          refine (ok j).cons (Ne.symm hj) rfl ?_
          intro other hold' h
          refine hj (exclusive.unique hold' mine ?_ ?_ ?_)
          · rw [locks, locks]
          · rw [ttls]
            exact h
          · rw [ttls]
            exact unexpired
  | _ => simp [Event.writes] at writes

/-- What holds of every step holds of the whole run. -/
theorem keeps {instances : Instances} {calls : List Delayed} {q : Site}
    (counting : ∀ call ∈ calls, call.2.Counting) (apart : t.key ≠ t.lock)
    (keep : t.config.windowSeconds * 1000 + t.config.lock.ttl ≤ t.config.recordSeconds * 1000)
    (governs : ∀ i, t.Governs (Call.siteAt instances calls q i)) :
    (Call.regime instances calls q drifting (· = .perform)).Keeps
      (t.Inv (Call.siteAt instances calls q)) where
  perform := rfl
  event := by
    intro v stages e stage inv admits perform step
    obtain ⟨exclusive, ledger⟩ := inv
    have separate : ∀ i j,
        (Call.siteAt instances calls q i).key ≠ (Call.siteAt instances calls q j).lock := by
      intro i j
      rw [(governs i).key, (governs j).lock]
      exact apart
    refine ⟨exclusive.event separate admits perform step, ?_⟩
    intro steady timely
    obtain ⟨deeds, led, ok⟩ := ledger steady.prefix timely.prefix
    cases writes : e.writes t.key with
    | true =>
      refine write_ok (governs e.task) (fun i => (governs i).lock) (fun i => ?_) exclusive led ok
        admits perform step writes timely
      rw [Site.ttl, (governs i).config]
    | false =>
      refine ⟨deeds, led.act (governs e.task) apart (ok e.task) perform step writes, ?_⟩
      intro i
      by_cases hi : i = e.task
      · subst hi
        rw [Function.update_self]
        exact act (governs e.task) keep led (ok e.task) admits perform step writes steady.prefix
      · rw [Function.update_of_ne hi]
        exact (ok i).add (Ne.symm hi)
  pass := by
    intro c h stages time inv rest later _
    obtain ⟨exclusive, ledger⟩ := inv
    refine ⟨exclusive.pass later, ?_⟩
    intro steady timely
    obtain ⟨deeds, led, ok⟩ := ledger steady timely
    refine ⟨deeds, led.later rfl rfl later, fun i => (ok i).later rfl later (.inr ?_)⟩
    intro hold phase inside
    exact (Call.atRest_inside counting rest inside).2
  outside := by
    intro s s' h stages inv tame change
    obtain ⟨skews, rfl⟩ := change
    obtain ⟨exclusive, ledger⟩ := inv
    refine ⟨⟨exclusive.congr rfl rfl rfl, fun steady timely => ?_⟩, tame⟩
    obtain ⟨deeds, led, ok⟩ := ledger steady timely
    exact ⟨deeds, led.later rfl rfl (Int.le_refl _),
      fun i => (ok i).later rfl (Int.le_refl _) (.inl rfl)⟩

end Terms

/-! ## The cap -/

/-- A call that counts the attempts of a pair, on an instance of some configuration. -/
def Call.CountsFor (instances : Instances) (config : LimiterConfig) (world subject : String)
    (call : Call) : Prop :=
  ∃ i, (call = .record i world subject ∨ call = .isLimited i world subject)
    ∧ (instances.limiter i).config = config

/-- **The cap under concurrency.** Instances share a configuration whose records are kept for the
    window and the lock's time to live at least. Their calls on one pair run next to each other, at
    any pace and in any order, with clocks that never differ by more than `d`, and each record is
    written before the lock of its call runs out. Then no interval that is shorter than the window
    by `d` holds the acquisitions of more allowed attempts than the cap. -/
theorem allowed_le_cap {instances : Instances} {config : LimiterConfig} {world subject : String}
    {calls : List Delayed} {d : Int} {s : System} {history : List Event}
    {final : Schedule (Except Failure CallResult)}
    (counting : ∀ call ∈ calls, call.2.CountsFor instances config world subject)
    (cap : 1 ≤ config.cap)
    (keep : config.windowSeconds * 1000 + config.lock.ttl ≤ config.recordSeconds * 1000)
    (latency : ∀ f ∈ s.faults, f.action = .perform)
    (run : (Call.sideBySide instances calls s).Run drifting history final)
    (steady : Steady d history)
    (timely : Timely (attemptsKey world subject) (lockKey world subject) config.lock.ttl history)
    (first : Int) (tasks : Finset Nat)
    (allowed : ∀ i ∈ tasks, ∃ c ∈ history, c.task = i ∧ c.counts .allowed)
    (acquired : ∀ i ∈ tasks, ∃ a ∈ history, a.task = i ∧ a.acquires (lockKey world subject)
      ∧ first ≤ a.time ∧ a.time < first + (config.windowSeconds * 1000 - d)) :
    (tasks.card : Int) ≤ config.cap := by
  let t : Terms := ⟨attemptsKey world subject, lockKey world subject, config, d⟩
  let q : Site := ⟨⟨config, .system⟩, world, subject, false, false, false⟩
  have governs : ∀ i, t.Governs (Call.siteAt instances calls q i) := by
    refine Call.siteAt_all ⟨rfl, rfl, rfl, rfl⟩ fun call hc p hp => ?_
    obtain ⟨i, h | h, hconfig⟩ := counting call hc <;>
    · rw [h] at hp
      cases hp
      exact ⟨rfl, rfl, hconfig, rfl⟩
  have plain : ∀ call ∈ calls, call.2.Counting := by
    intro call hc
    obtain ⟨i, h | h, -⟩ := counting call hc <;> (rw [h]; trivial)
  have sites : ∀ call ∈ calls, (call.2.site? instances).isSome := by
    intro call hc
    obtain ⟨i, h | h, -⟩ := counting call hc <;> (rw [h]; rfl)
  have start : t.Inv (Call.siteAt instances calls q) (.of s []) fun _ => .delayed := by
    refine ⟨.start fun _ => rfl, fun _ _ => ⟨[], ?_, fun i => ⟨?_, ?_⟩⟩⟩
    · constructor <;> simp [Capped, World.of]
    · simp [World.of]
    · simp
  obtain ⟨stages, ⟨-, ledger⟩, -, -⟩ := run.invariant
    (Terms.keeps plain (attemptsKey_ne_lockKey world subject) keep governs) start
    (Call.atRest_sideBySide (by rfl) sites s) latency
  obtain ⟨deeds, led, -⟩ := ledger steady timely
  have capped := led.capped.length_le cap first
  -- Every one of the tasks did a deed of its own in the interval.
  have mem : ∀ i ∈ tasks, i ∈ ((deeds.filter fun e => first ≤ e.since
      && e.since < first + t.span).map Deed.task).toFinset := by
    intro i hi
    obtain ⟨c, hc, htask, hcounts⟩ := allowed i hi
    obtain ⟨e, he, hsame⟩ := led.allowed c hc hcounts
    obtain ⟨a, ha, htask', hacq, hfirst, hlast⟩ := acquired i hi
    have since : a.time = e.since := led.acquired e he a ha (by rw [htask', hsame, htask]) hacq
    rw [List.mem_toFinset, List.mem_map]
    refine ⟨e, List.mem_filter.2 ⟨he, ?_⟩, by rw [hsame, htask]⟩
    simp only [Bool.and_eq_true, decide_eq_true_eq, ← since]
    exact ⟨hfirst, hlast⟩
  have card : tasks.card ≤ _ := (Finset.card_le_card mem).trans (List.toFinset_card_le _)
  rw [List.length_map] at card
  have : t.config.cap = config.cap := rfl
  omega

/-- Four calls on one pair. -/
def fourCalls : Schedule (Except Failure CallResult) :=
  Call.sideBySide ⟨[{}]⟩ (List.replicate 4 (0, .record 0 "w" "s")) {}

/-- Turns of four calls: the second finds the lock of the first and pauses, the last finds the cap
    reached. -/
def fourTurns : List (Nat × Int) :=
  [(0, 0), (1, 0), (0, 5), (1, 6), (0, 10), (1, 110), (0, 120), (0, 130), (1, 140), (1, 150),
    (1, 160), (1, 170), (2, 180), (2, 190), (3, 195), (2, 200), (2, 210), (2, 220), (3, 230),
    (3, 240), (3, 250)]

theorem isSome_follow_fourTurns : (fourCalls.follow fourTurns).isSome := by decide +kernel

/-- Three of the four calls are allowed, and so many may be. -/
theorem allowed_le_cap_of_fourTurns :
    (∀ i ∈ ({0, 1, 2} : Finset Nat),
        ∃ c ∈ ((fourCalls.follow fourTurns).get isSome_follow_fourTurns).1,
          c.task = i ∧ c.counts .allowed)
      ∧ (({0, 1, 2} : Finset Nat).card : Int) ≤ 3 := by
  have free : ∀ c t, drifting.mayPass c t := fun _ _ => trivial
  have run := Schedule.run_of_follow free (Option.some_get isSome_follow_fourTurns).symm
  refine ⟨by decide +kernel, @allowed_le_cap ⟨[{}]⟩ {} "w" "s" _ 0 {} _ _ ?_ (by decide)
    (by decide) (by simp) run (by decide +kernel) (by decide +kernel) 0 {0, 1, 2}
    (by decide +kernel) (by decide +kernel)⟩
  intro call hc
  rw [List.eq_of_mem_replicate hc]
  exact ⟨0, .inl rfl, rfl⟩

end Turnstile

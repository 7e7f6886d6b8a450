import Turnstile.Proofs.Limiter.Denial

set_option autoImplicit false

/-! # What a record looks like

Whatever calls run next to each other, at whatever pace, by whatever configurations and clocks, and
whichever commands are late or fail: what is found under a key is a list of timestamps as one call
wrote it (`record_shape`). Its last timestamp is the reading of that call's clock, those before it
lie in the call's window and leave room under its cap, and it is gone when the call's limiter says
so.

A call writes what it has read, filtered. So the invariant is that every record was written in this
way, by the last write that took effect, and that a call which is about to write has just read such
a record, or nothing. -/

namespace Turnstile

/-! ## What a call writes -/

/-- A limiter whose clock shows `now` may add an attempt to these timestamps: they lie in its window
    and leave room under its cap. -/
structure Limiter.MayAdd (l : Limiter) (earlier : List Int) (now : Int) : Prop where
  room : (earlier.length : Int) + 1 ≤ l.config.cap
  inWindow : ∀ n ∈ earlier, now - l.config.windowSeconds * 1000 < n

/-- An event put an entry under the key of a site: a list of timestamps to which an attempt at the
    reading `now` of the limiter's clock was added, to be gone when the limiter says so. -/
structure Site.Wrote (p : Site) (before : List Event) (e : Event) (entry : Entry)
    (earlier : List Int) (now : Int) : Prop where
  put : e.put? p.key = some (entry.value, p.keep)
  value : entry.value = (Window.record (earlier ++ [now])).write .stored
  reads : Json.read entry.value = .ok (Window.record (earlier ++ [now]))
  expiry : entry.expiry = some (e.time + p.keep * 1000)
  clock : LastRead p.limiter before e.task now
  may : p.limiter.MayAdd earlier now

/-- The last write under a key that took effect was that of a site which records there, and put the
    entry there. -/
def Shaped (key : String) (sites : Nat → Site) (h : List Event) (entry : Entry) : Prop :=
  ∃ before e after earlier now, h = before ++ e :: after ∧ (∀ x ∈ after, x.put? key = none)
    ∧ (sites e.task).records ∧ (sites e.task).key = key
    ∧ (sites e.task).Wrote before e entry earlier now

section

variable {l : Limiter} {h : List Event} {i : Nat} {now : Int}

theorem Shaped.append {key : String} {sites : Nat → Site} {entry : Entry}
    (shaped : Shaped key sites h entry) {e : Event} (put : e.put? key = none) :
    Shaped key sites (h ++ [e]) entry := by
  obtain ⟨before, x, after, earlier, now, rfl, last, rest⟩ := shaped
  refine ⟨before, x, after ++ [e], earlier, now, by simp, ?_, rest⟩
  intro y hy
  rcases List.mem_append.1 hy with hy | hy
  · exact last y hy
  · rw [List.mem_singleton.1 hy]
    exact put

/-- What a limiter keeps of a record that was written, or of nothing, it may add to, where its cap
    is not reached. -/
theorem Limiter.MayAdd.of_recent {value : Json}
    (found : value = .null ∨ ∃ ts, value = Window.record ts) {recent : List Int}
    (hr : l.recent value now = .ok recent) (room : l.capReached recent = false) :
    l.MayAdd recent now := by
  constructor
  · rw [Limiter.capReached, decide_eq_false_iff_not] at room
    omega
  · rcases found with rfl | ⟨ts, rfl⟩
    · have none : recent = [] := by
        simpa [Limiter.recent, Window.recent, Window.attempts_null, Window.later] using hr.symm
      simp [none]
    · rw [Window.eq_of_recent_record hr]
      intro n hn
      exact of_decide_eq_true (List.mem_filter.1 hn).2

end

/-! ## What a stage tells -/

/-- What a phase tells of the timestamps that its call has read and is about to write. -/
def PhaseShaped (p : Site) (h : List Event) (i : Nat) : Phase → Prop
  | .timed _ now => LastRead p.limiter h i now
  | .room _ now recent => LastRead p.limiter h i now ∧ p.limiter.MayAdd recent now
  | .ready timestamps => ∃ earlier now, timestamps = earlier ++ [now]
      ∧ (Window.record (earlier ++ [now])).integersFit ∧ LastRead p.limiter h i now
      ∧ p.limiter.MayAdd earlier now
  | _ => True

/-- What a stage tells of the timestamps that its call has read and is about to write. -/
def StageShaped (p : Site) (h : List Event) (i : Nat) : Stage → Prop
  | .inside _ phase => PhaseShaped p h i phase
  | _ => True

/-- A call that holds no lock has nothing to write. -/
theorem StageShaped.of_hold? {p : Site} {h : List Event} {i : Nat} {stage : Stage}
    (free : stage.hold? = none) : StageShaped p h i stage := by
  cases stage with
  | inside => cases free
  | _ => trivial

/-- What a stage tells stays true until its call goes on. -/
theorem StageShaped.append {p : Site} {h : List Event} {i : Nat} {stage : Stage}
    (shaped : StageShaped p h i stage) {e : Event} (other : e.task = i → e.reading? = none) :
    StageShaped p (h ++ [e]) i stage := by
  cases stage with
  | inside hold phase =>
    cases phase with
    | timed => exact LastRead.append shaped other
    | room => exact ⟨shaped.1.append other, shaped.2⟩
    | ready =>
      obtain ⟨earlier, now, rfl, fit, read, may⟩ := shaped
      exact ⟨earlier, now, rfl, fit, read.append other, may⟩
    | _ => trivial
  | _ => trivial

/-- A step keeps what is known of the call that takes it. -/
theorem shaped_step {p : Site} {v : World} {e : Event} {stage stage' : Stage}
    (entry : ∀ entry, v.store.get? v.now p.key = some entry →
      ∃ ts, Json.read entry.value = .ok (Window.record ts))
    (shaped : StageShaped p v.history e.task stage) (admits : v.Admits e)
    (honest : e.action.Honest) (step : p.Step stage e stage') :
    StageShaped p (v.add e).history e.task stage' := by
  obtain ⟨htime, answer⟩ := admits
  cases step with
  | log | count => exact shaped.append fun _ => rfl
  | wait | pause | draw | allow | release => trivial
  | look => exact .of_hold? (Site.hold?_seen _).1
  | weigh => exact .of_hold? (Site.hold?_weigh ..).1
  | drop => exact .of_hold? (Site.hold?_dropped _).1
  | @contend token again time task action reply =>
    fun_cases Site.tried token time reply with
    | _ => trivial
  | @handle hold time task action reading =>
    fun_cases Site.handled hold reading with
    | _ => trivial
  | @time hold acquired time task action reading =>
    cases reading with
    | ok now => exact LastRead.here v.history rfl rfl
    | error f => trivial
  | @judge hold acquired now time task action reply =>
    cases htime
    show PhaseShaped _ _ _ (p.judge acquired now reply)
    rw [Site.judge]
    cases hv : Site.stored reply with
    | error f => trivial
    | ok value =>
      have found : value = .null ∨ ∃ ts, value = Window.record ts := by
        rcases Site.stored_eq_ok hv with none | found
        · exact .inl none
        · rcases valueOf_of_reply honest answer found with none | ⟨e, he, text⟩
          · exact .inl none
          · obtain ⟨ts, read⟩ := entry e he
            rw [Cache.valueOf, read] at text
            exact .inr ⟨ts, (Except.ok.inj text).symm⟩
      cases hr : p.limiter.recent value now with
      | error f =>
        simp only [Except.bind, hr]
        trivial
      | ok recent =>
        simp only [Except.bind, hr]
        cases reached : p.limiter.capReached recent with
        | true => trivial
        | false => exact ⟨LastRead.append shaped fun _ => rfl, .of_recent found hr reached⟩
  | @prepare hold acquired now time recent task action reading =>
    obtain ⟨read, may⟩ := shaped
    show PhaseShaped _ _ _ (p.prepare acquired (recent ++ [now]) reading)
    fun_cases Site.prepare p acquired (recent ++ [now]) reading with
    | case2 later _ fit => exact ⟨recent, now, rfl, fit, read.append fun _ => rfl, may⟩
    | _ => trivial
  | @write hold timestamps time task action reply =>
    show PhaseShaped _ _ _ (Site.kept reply)
    fun_cases Site.kept reply with
    | _ => trivial

/-! ## The run -/

/-- What holds throughout a run of the entry under a key and of the calls. -/
structure InShape (key : String) (sites : Nat → Site) (v : World) (stages : Nat → Stage) :
    Prop where
  entry : ∀ entry, v.store.get? v.now key = some entry → Shaped key sites v.history entry
  records : ∀ i, (stages i).token? ≠ none → (sites i).records
  calls : ∀ i, (sites i).key = key → StageShaped (sites i) v.history i (stages i)

namespace InShape

variable {key : String} {sites : Nat → Site} {v : World} {stages : Nat → Stage}

/-- A write that takes effect puts an entry as its site writes it. -/
theorem shaped_of_put (inv : InShape key sites v stages) {e : Event} {stage : Stage}
    (admits : v.Admits e) (step : (sites e.task).Step (stages e.task) e stage) {text : String}
    {ttl : Int} (put : e.put? key = some (text, ttl)) :
    Shaped key sites (v.add e).history ⟨text, some (v.now + ttl * 1000)⟩ := by
  obtain ⟨hkey, rfl, hold, timestamps, hs, rfl⟩ := ready_of_put step put
  have shaped := inv.calls e.task hkey
  rw [hs] at shaped
  obtain ⟨earlier, now, rfl, fit, read, may⟩ := shaped
  have records := inv.records e.task (by simp [hs, Stage.token?])
  refine ⟨v.history, e, [], earlier, now, rfl, by simp, records, hkey, ?_⟩
  refine ⟨by rw [hkey]; exact put, rfl, Json.read_write_record fit, ?_, read, may⟩
  rw [admits.time]

/-- A step keeps what is known. -/
theorem event (inv : InShape key sites v stages)
    (locks : ∀ i, (sites i).records → (sites i).lock ≠ key) {e : Event} {stage : Stage}
    (admits : v.Admits e) (honest : e.action.Honest)
    (step : (sites e.task).Step (stages e.task) e stage) :
    InShape key sites (v.add e) (Function.update stages e.task stage) := by
  have noLock := noLock_of_step step fun token => locks e.task (inv.records e.task token)
  constructor
  · intro entry found
    cases put : e.put? key with
    | none => exact (inv.entry entry (World.get?_of_add put noLock found)).append put
    | some written =>
      obtain ⟨text, ttl⟩ := written
      have here := World.get?_add_of_put (v := v) put
      rw [World.add_now, here, Option.some.injEq] at found
      rw [← found]
      exact inv.shaped_of_put admits step put
  · intro i token
    by_cases hi : i = e.task
    · subst hi
      rw [Function.update_self] at token
      exact records_of_token step (inv.records e.task) token
    · rw [Function.update_of_ne hi] at token
      exact inv.records i token
  · intro i hkey
    by_cases hi : i = e.task
    · subst hi
      rw [Function.update_self]
      refine shaped_step ?_ (inv.calls e.task hkey) admits honest step
      intro entry found
      rw [hkey] at found
      obtain ⟨_, _, _, earlier, now, _, _, _, _, wrote⟩ := inv.entry entry found
      exact ⟨earlier ++ [now], wrote.reads⟩
    · rw [Function.update_of_ne hi]
      exact (inv.calls i hkey).append fun task => absurd task.symm hi

/-- What is known is kept while time passes and the surroundings change other things. -/
theorem later (inv : InShape key sites v stages) {v' : World} (history : v'.history = v.history)
    (later : v.now ≤ v'.now) (store : ∀ t, v'.store.get? t key = v.store.get? t key) :
    InShape key sites v' stages := by
  constructor
  · intro entry found
    rw [store] at found
    rw [history]
    exact inv.entry entry (Store.get?_earlier later found)
  · exact inv.records
  · rw [history]
    exact inv.calls

theorem keeps {instances : Instances} {calls : List Delayed} {p : Site}
    (locks : ∀ i, (Call.siteAt instances calls p i).records →
      (Call.siteAt instances calls p i).lock ≠ key) :
    (Call.regime instances calls p (elsewhere key) FaultAction.Honest).Keeps
      (InShape key (Call.siteAt instances calls p)) where
  perform := fun _ => by simp
  event _ _ _ _ inv admits honest step := inv.event locks admits honest step
  pass _ _ _ _ inv _ later _ := inv.later rfl later fun _ => rfl
  outside _ _ _ _ inv _ change := ⟨inv.later rfl change.1 change.2.1, change.2.2⟩

end InShape

/-- **What a record looks like.** Calls on the limiter and the guard run next to each other, at any
    pace and in any order, by any configurations and clocks, and commands meet any delays and
    failures. There was no entry under the key at first, none but the calls write there, and it is
    the key of no lock. An entry that is found there, at any point, was put there by the last write
    that took effect, that of a call which records there. It is the text of a list of timestamps and
    reads back as that list: the last is what the call's clock showed when the call last read it,
    those before it lie in the window of the call's limiter, and with it they are no more than the
    cap. It is gone as long after the write as that limiter keeps a record. -/
theorem record_shape {instances : Instances} {calls : List Delayed} {key : String} {s : System}
    {history : List Event} {final : Schedule (Except Failure CallResult)}
    (onLimiter : ∀ call ∈ calls, (call.2.site? instances).isSome)
    (locks : ∀ call ∈ calls, ∀ p, call.2.site? instances = some p → p.records → p.lock ≠ key)
    (absent : s.get? key = none) (honest : ∀ f ∈ s.faults, f.action.Honest)
    (run : (Call.sideBySide instances calls s).Run (elsewhere key) history final) {entry : Entry}
    (found : final.system.get? key = some entry) :
    ∃ before e after call p earlier now, history = before ++ e :: after
      ∧ (∀ x ∈ after, x.put? key = none)
      ∧ calls[e.task]? = some call ∧ call.2.site? instances = some p ∧ p.records ∧ p.key = key
      ∧ p.Wrote before e entry earlier now := by
  let q : Site := ⟨instances.limiter 0, "", "", false, false, false⟩
  have locks' : ∀ j, (Call.siteAt instances calls q j).records →
      (Call.siteAt instances calls q j).lock ≠ key :=
    Call.siteAt_all (Q := fun p => p.records → p.lock ≠ key) (fun no => by cases no)
      fun call hc p hp => locks call hc p hp
  have start : InShape key (Call.siteAt instances calls q) (.of s []) fun _ => .delayed := by
    constructor
    · intro entry found
      rw [show (World.of s []).store.get? (World.of s []).now key = none from absent] at found
      cases found
    · simp [Stage.token?]
    · exact fun _ _ => trivial
  obtain ⟨stages, inv, -, -⟩ := run.invariant (InShape.keeps locks') start
    (Call.atRest_sideBySide (by simp [FaultAction.Honest]) onLimiter s) honest
  obtain ⟨before, e, after, earlier, now, split, last, records, under, wrote⟩ :=
    inv.entry entry found
  obtain ⟨call, hcall, hsite⟩ := Call.siteAt_of (Q := fun p => p.records) (by simp [q]) records
  exact ⟨before, e, after, call, _, earlier, now, split, last, hcall, hsite, records, under, wrote⟩

/-- A limiter, and one with a cap, a window and a clock of its own. -/
def unlike : Instances := ⟨[{}, { cap := 2, windowSeconds := 10, recordSeconds := 20 }]⟩

/-- An attempt on each. -/
def attemptOnEach : List Delayed := [(0, .record 0 "w" "s"), (0, .record 1 "w" "s")]

/-- The first attempt is told that its write failed, which it did only after it took effect; then
    the second is written. -/
def lateWrite : Option (List Event × Schedule (Except Failure CallResult)) :=
  (Call.sideBySide unlike attemptOnEach
    { skews := [0, 500]
      faults := [{ kind := .set, action := .fail .timeout "late" true }] }).follow
    [(0, 0), (0, 5), (0, 10), (0, 15), (0, 20), (1, 1000), (1, 1005), (1, 1010), (1, 1015)]

theorem isSome_lateWrite : lateWrite.isSome := by decide +kernel

/-- The record of the second attempt holds that of the first, by another clock. -/
theorem record_shape_of_lateWrite :
    ∃ entry, (lateWrite.get isSome_lateWrite).2.system.get? (attemptsKey "w" "s") = some entry
      ∧ entry.value = "\x7b\"attempts\": [1700000000005, 1700000001505]\x7d"
      ∧ ∃ before e after earlier now, ∃ p : Site,
        (lateWrite.get isSome_lateWrite).1 = before ++ e :: after
        ∧ p.Wrote before e entry earlier now := by
  have free : ∀ c t, (elsewhere (attemptsKey "w" "s")).mayPass c t := fun _ _ => trivial
  have run := Schedule.run_of_follow free (Option.some_get isSome_lateWrite).symm
  have locks : ∀ call ∈ attemptOnEach, ∀ p, call.2.site? unlike = some p → p.records →
      p.lock ≠ attemptsKey "w" "s" := by
    intro call hc p hp _
    have shared : p.lock = lockKey "w" "s" := by
      rcases List.mem_pair.1 hc with rfl | rfl <;>
      · cases hp
        rfl
    rw [shared]
    exact (attemptsKey_ne_lockKey "w" "s").symm
  have there : ((lateWrite.get isSome_lateWrite).2.system.get?
      (attemptsKey "w" "s")).map Entry.value
      = some "\x7b\"attempts\": [1700000000005, 1700000001505]\x7d" := by
    decide +kernel
  obtain ⟨entry, found, value⟩ := Option.map_eq_some_iff.1 there
  obtain ⟨before, e, after, -, p, earlier, now, split, -, -, -, -, -, wrote⟩ :=
    record_shape (by decide) locks (by rfl) (by simp [FaultAction.Honest]) run found
  exact ⟨entry, found, value, before, e, after, earlier, now, p, split, wrote⟩

end Turnstile

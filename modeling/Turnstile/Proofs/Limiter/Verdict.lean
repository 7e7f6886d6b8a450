import Turnstile.Proofs.Binary64.Rounding
import Turnstile.Proofs.Limiter.Exclusion
import Turnstile.Proofs.Limiter.Regime
import Turnstile.Proofs.Run.Prompt

set_option autoImplicit false

/-! # What the locked section comes to

At one instant the clocks do not move, and what the locked section does is told by two clock
readings and the record: a `Site.verdict`, which is the answer and the timestamps to be written. A
section that runs at an instant stays on course to its verdict (`Site.OnCourse.step`), and one that
runs alone comes to it (`Site.lockedSection_run`). A look likewise comes to what it finds at a
glance. -/

namespace Turnstile

/-- The reading of the monotonic clock. -/
def World.monotonic (v : World) : Except Failure Binary64 := (clockSeconds v.now).mapError .noTime

theorem World.exists_monotonic {v : World} (readable : MonotonicReadable v.now) :
    ∃ x, v.monotonic = .ok x := by
  rw [monotonic, readable.clockSeconds_eq]
  exact ⟨_, rfl⟩

/-- A clock shows in a world what it shows in the system. -/
theorem World.read_of (s : System) (h : List Event) (clock : Clock) :
    (World.of s h).read clock = s.read clock := by
  cases clock <;> rfl

/-- The reply to a read of a key. -/
def World.reply (v : World) (key : String) : Except Failure Json :=
  (Command.perform v.now v.store (.get key)).2

/-- A reply tells the text of the entry. -/
theorem World.reply_eq (v : World) (key : String) :
    v.reply key = .ok ((v.store.get? v.now key).elim .null fun e => .text e.value) := by
  rw [reply, Command.perform]
  cases v.store.get? v.now key <;> rfl

/-- The event reads or writes a record. -/
def Event.touches (e : Event) : Bool :=
  match e.effect with
  | .command (.get _) | .command (.set ..) => true
  | _ => false

/-- Two worlds show the same on all clocks. -/
structure World.SameTime (v u : World) : Prop where
  now : v.now = u.now
  epoch : v.epoch = u.epoch
  skews : v.skews = u.skews

namespace World.SameTime

variable {v u : World} (same : v.SameTime u)

include same

theorem read (clock : Clock) : v.read clock = u.read clock := by
  cases clock <;> simp only [World.read, same.now, same.epoch, same.skews]

theorem monotonic : v.monotonic = u.monotonic := by
  rw [World.monotonic, World.monotonic, same.now]

theorem trans {w : World} (further : u.SameTime w) : v.SameTime w :=
  ⟨same.now.trans further.now, same.epoch.trans further.epoch, same.skews.trans further.skews⟩

theorem add (e : Event) : (v.add e).SameTime u := ⟨same.now, same.epoch, same.skews⟩

end World.SameTime

/-! ## Ages -/

/-- What was acquired this instant has not reached its time to live. -/
theorem World.not_reaches {v : World} {acquired : Binary64} (monotonic : v.monotonic = .ok acquired)
    {ttl : Int} (positive : 1 ≤ ttl) : (millisBetween acquired acquired).reaches ttl = false := by
  have finite : acquired.isFinite := by
    unfold World.monotonic clockSeconds at monotonic
    split at monotonic
    · next finite =>
      cases monotonic
      exact finite
    · cases monotonic
  rw [millisBetween_self acquired finite]
  exact Binary64.reaches_zero positive

/-! ## The locked section -/

/-- The locked section for an instant at which the lock is had; an ordinary failure counts as no. -/
def Limiter.lockedSection (l : Limiter) (world subject : String) : Routine Bool :=
  let inner := do
    let acquired ← Routine.monotonic
    l.checkAndRecord (attemptsKey world subject)
      ⟨lockKey world subject, tokenText 0, l.config.lock.ttl, acquired⟩
  inner.catching (!·.isCancellation) fun _ => return false

namespace Site

variable (p : Site)

/-! ## Verdicts -/

/-- What the locked section answers, and the timestamps that it is to write, by the readings of the
    monotonic clock and of the limiter's, and the reply to its read. -/
def verdict (acquired : Binary64) (now : Int) (reply : Except Failure Json) :
    Except Failure Bool × Option (List Int) :=
  match (stored reply).bind fun value => p.limiter.recent value now with
  | .error f => (.error f, none)
  | .ok recent =>
    if p.limiter.capReached recent then (.ok true, none)
    else if (millisBetween acquired acquired).reaches p.ttl then (.ok false, none)
    else if (Window.record (recent ++ [now])).integersFit then (.ok false, some (recent ++ [now]))
    else (.error .integerTooLong, none)

/-- The store after timestamps were written, if there are any. -/
def written (now : Int) (s : Store) : Option (List Int) → Store
  | some timestamps =>
    (Command.perform now s (.set p.key ((Window.record timestamps).write .stored) p.keep)).1
  | none => s

/-- Stores that agree under a key still do when both are written to alike. -/
theorem get?_written_congr {s s' : Store} {k : String}
    (h : ∀ t, s.get? t k = s'.get? t k) (now : Int) (timestamps : Option (List Int)) (t : Int) :
    (p.written now s timestamps).get? t k = (p.written now s' timestamps).get? t k := by
  cases timestamps with
  | none => exact h t
  | some timestamps =>
    unfold written Command.perform
    by_cases hk : p.keep ≤ 0
    · simp only [hk, if_true]
      exact h t
    · simp only [hk, if_false, Store.get?_put, h t]

/-- Only the record is written to. -/
theorem get?_written_of_ne {k : String} (apart : k ≠ p.key) (now : Int) (s : Store)
    (timestamps : Option (List Int)) (t : Int) :
    (p.written now s timestamps).get? t k = s.get? t k := by
  cases timestamps with
  | none => rfl
  | some timestamps =>
    refine Command.get?_perform_of_ne now t s _ k fun h => apart ?_
    exact (Option.some.inj h).symm

/-- Timestamps that were written are found as long as the record is kept. -/
theorem get?_written_self (keep : 1 ≤ p.keep) (now : Int) (s : Store) (timestamps : List Int)
    (t : Int) :
    (p.written now s (some timestamps)).get? t p.key
      = (some ⟨(Window.record timestamps).write .stored, some (now + p.keep * 1000)⟩
        : Option Entry).filter (·.isLive t) := by
  rw [written, Command.perform, if_neg (by omega), Store.get?_put, if_pos rfl]

/-- Where a look gets by the reply to its read and the reading of its clock. -/
def glance (reply : Except Failure Json) (reading : Except Failure Int) : Stage :=
  match seen reply with
  | .looked value => p.weigh value reading
  | stage => stage

/-- The section has still to come to its effect, which is to write the timestamps or to see that it
    will write none. -/
def early : Phase → Bool
  | .room acquired now recent =>
    match p.prepare acquired (recent ++ [now]) (.ok acquired) with
    | .ready _ => true
    | _ => false
  | .written | .closing _ => false
  | _ => true

/-- The section has read the record and has still to come to its effect. -/
def pends (phase : Phase) : Bool :=
  match phase with
  | .room .. | .ready _ => p.early phase
  | _ => false

/-- The section is on the way to its verdict. -/
def OnCourse (acquired : Binary64) (now : Int) (reply : Except Failure Json) : Phase → Prop
  | .granted => True
  | .begun a => a = acquired
  | .timed a n => a = acquired ∧ n = now
  | .room a n recent => a = acquired ∧ n = now ∧ p.judge a n reply = .room a n recent
  | .ready timestamps => p.verdict acquired now reply = (.ok false, some timestamps)
  | .written => (p.verdict acquired now reply).1 = .ok false
  | .closing outcome => (p.verdict acquired now reply).1 = outcome

variable {p}

/-! ## Staying on course -/

/-- How a section gets from its read to its verdict. -/
theorem judge_cases (acquired : Binary64) (now : Int) (reply : Except Failure Json) :
    (∃ outcome, p.judge acquired now reply = .closing outcome
        ∧ p.verdict acquired now reply = (outcome, none))
      ∨ ∃ recent, p.judge acquired now reply = .room acquired now recent
        ∧ ((∃ outcome, p.prepare acquired (recent ++ [now]) (.ok acquired) = .closing outcome
            ∧ p.verdict acquired now reply = (outcome, none))
          ∨ (p.prepare acquired (recent ++ [now]) (.ok acquired) = .ready (recent ++ [now])
            ∧ p.verdict acquired now reply = (.ok false, some (recent ++ [now])))) := by
  unfold judge verdict
  cases (stored reply).bind fun value => p.limiter.recent value now with
  | error f => exact .inl ⟨_, rfl, rfl⟩
  | ok recent =>
    by_cases reached : p.limiter.capReached recent = true
    · exact .inl ⟨.ok true, by simp [reached], by simp [reached]⟩
    · refine .inr ⟨recent, by simp [reached], ?_⟩
      by_cases late : (millisBetween acquired acquired).reaches p.ttl = true
      · exact .inl ⟨.ok false, by simp [prepare, late], by simp [reached, late]⟩
      · by_cases fit : (Window.record (recent ++ [now])).integersFit = true
        · exact .inr ⟨by simp [prepare, late, fit], by simp [reached, late, fit]⟩
        · exact .inl ⟨.error .integerTooLong, by simp [prepare, late, fit],
            by simp [reached, late, fit]⟩

/-- What a step of a section that is on course is to the section's effect: it leaves the store alone
    and comes no closer, it reads the record while the effect is still to come, or it is the effect.
    -/
inductive Affects (p : Site) (v : World) (e : Event) (phase phase' : Phase)
    (timestamps : Option (List Int)) : Prop where
  | apart (quiet : e.touches = false) (early : p.early phase' = p.early phase)
      (pends : p.pends phase' = p.pends phase) (store : (v.add e).store = v.store)
  | reads (touches : e.touches) (early : p.early phase ∧ p.early phase') (pends : p.pends phase')
      (store : (v.add e).store = v.store)
  | comes (touches : e.touches) (early : p.early phase) (late : p.early phase' = false)
      (key : ∀ c, e.effect = .command c → c.key? = some p.key)
      (store : (v.add e).store = p.written v.now v.store timestamps)

section

variable {acquired : Binary64} {now : Int} {reply : Except Failure Json} {v : World}

/-- The read of the record decides the verdict. -/
theorem OnCourse.judge {time : Int} {task : Nat}
    (content : reply = v.reply p.key) {answer : Except Failure Json}
    (answered : answer = v.reply p.key) :
    p.OnCourse acquired now reply (p.judge acquired now answer)
      ∧ p.Affects v ⟨time, task, .command (.get p.key), .perform, answer⟩ (.timed acquired now)
          (p.judge acquired now answer) (p.verdict acquired now reply).2 := by
  have unchanged :
      (v.add ⟨time, task, .command (.get p.key), .perform, answer⟩).store = v.store :=
    Command.perform_get v.now v.store p.key
  have key : ∀ c, Effect.command (.get p.key) = .command c → c.key? = some p.key := by
    intro c hc
    cases hc
    rfl
  rw [answered.trans content.symm] at unchanged ⊢
  rcases judge_cases acquired now reply with ⟨outcome, hj, hv⟩ | ⟨recent, hj, hp⟩
  · -- The read is the effect: nothing will be written.
    rw [hj, hv]
    exact ⟨congrArg Prod.fst hv, .comes rfl rfl rfl key unchanged⟩
  · rw [hj]
    refine ⟨⟨rfl, rfl, hj⟩, ?_⟩
    rcases hp with ⟨outcome, hp, hv⟩ | ⟨hp, hv⟩
    · rw [hv]
      refine .comes rfl rfl ?_ key unchanged
      simp only [early, hp]
    · have soon : p.early (.room acquired now recent) := by simp only [early, hp]
      exact .reads rfl ⟨rfl, soon⟩ soon unchanged

/-- The age of the lock, which is none, does not change the verdict. -/
theorem OnCourse.prepare {recent : List Int} {time : Int} {task : Nat}
    {reading : Except Failure Binary64}
    (hj : p.judge acquired now reply = .room acquired now recent)
    (read : reading = .ok acquired) :
    p.OnCourse acquired now reply (p.prepare acquired (recent ++ [now]) reading)
      ∧ p.Affects v ⟨time, task, .monotonic, .perform, reading⟩ (.room acquired now recent)
          (p.prepare acquired (recent ++ [now]) reading) (p.verdict acquired now reply).2 := by
  rw [read]
  rcases judge_cases acquired now reply with ⟨outcome, hj', -⟩ | ⟨recent', hj', hp⟩
  · rw [hj] at hj'
    cases hj'
  · rw [hj] at hj'
    cases hj'
    rcases hp with ⟨outcome, hp, hv⟩ | ⟨hp, hv⟩
    · have late : p.early (.room acquired now recent) = false := by simp only [early, hp]
      rw [hp]
      exact ⟨congrArg Prod.fst hv, .apart rfl late.symm late.symm rfl⟩
    · have soon : p.early (.room acquired now recent) = true := by simp only [early, hp]
      rw [hp]
      exact ⟨hv, .apart rfl soon.symm soon.symm rfl⟩

/-- The write is the effect, even where the store refuses it. -/
theorem OnCourse.write {timestamps : List Int} {time : Int} {task : Nat}
    {answer : Except Failure Json}
    (told : p.verdict acquired now reply = (.ok false, some timestamps))
    (answered : answer = (Command.perform v.now v.store
      (.set p.key ((Window.record timestamps).write .stored) p.keep)).2) :
    p.OnCourse acquired now reply (kept answer)
      ∧ p.Affects v ⟨time, task, .command (.set p.key ((Window.record timestamps).write .stored)
          p.keep), .perform, answer⟩ (.ready timestamps) (kept answer)
          (p.verdict acquired now reply).2 := by
  have put : (v.add ⟨time, task, .command (.set p.key ((Window.record timestamps).write .stored)
      p.keep), .perform, answer⟩).store = p.written v.now v.store (some timestamps) := rfl
  have key : ∀ c, Effect.command (.set p.key ((Window.record timestamps).write .stored) p.keep)
      = .command c → c.key? = some p.key := by
    intro c hc
    cases hc
    rfl
  rw [told]
  cases answer with
  | ok reply => exact ⟨congrArg Prod.fst told, .comes rfl rfl rfl key put⟩
  | error f =>
    have refused : f = Command.invalidExpiry :=
      Command.eq_invalidExpiry (Prod.ext rfl answered.symm)
    rw [refused] at put ⊢
    exact ⟨congrArg Prod.fst told, .comes rfl rfl rfl key put⟩

/-- A section stays on course, until it releases its lock. -/
theorem OnCourse.step {hold : Hold} {phase : Phase} (on : p.OnCourse acquired now reply phase)
    (monotonic : v.monotonic = .ok acquired) (clock : v.read p.limiter.clock = .ok now)
    (content : p.early phase = true → reply = v.reply p.key) {e : Event} {stage : Stage}
    (admits : v.Admits e) (perform : e.action = .perform)
    (step : p.Step (.inside hold phase) e stage) :
    (∃ phase', stage = .inside hold phase' ∧ p.OnCourse acquired now reply phase'
        ∧ p.Affects v e phase phase' (p.verdict acquired now reply).2)
      ∨ ∃ outcome, phase = .closing outcome
        ∧ e.effect = .command (.deleteIfEqual p.lock (tokenText hold.token))
        ∧ stage = .finished outcome := by
  obtain ⟨-, answered⟩ := admits
  cases step with
  | log | count => exact .inl ⟨phase, rfl, on, .apart rfl rfl rfl rfl⟩
  | drop _ isOpen | draw _ isOpen => cases isOpen
  | @handle _ _ _ _ reading =>
    have same : reading = .ok acquired := Eq.trans answered monotonic
    rw [same]
    exact .inl ⟨.begun acquired, rfl, rfl, .apart rfl rfl rfl rfl⟩
  | @time _ a _ _ _ reading =>
    have same : reading = .ok now := Eq.trans answered clock
    rw [same]
    exact .inl ⟨.timed a now, rfl, ⟨on, rfl⟩, .apart rfl rfl rfl rfl⟩
  | judge =>
    obtain ⟨rfl, rfl⟩ := on
    cases perform
    exact .inl ⟨_, rfl, OnCourse.judge (content rfl) answered⟩
  | prepare =>
    obtain ⟨rfl, rfl, hj⟩ := on
    cases perform
    exact .inl ⟨_, rfl, OnCourse.prepare hj (Eq.trans answered monotonic)⟩
  | write =>
    cases perform
    exact .inl ⟨_, rfl, OnCourse.write on answered⟩
  | allow => exact .inl ⟨.closing (.ok false), rfl, on, .apart rfl rfl rfl rfl⟩
  | @release _ outcome time task action answer =>
    refine .inr ⟨outcome, rfl, rfl, congrArg Stage.finished ?_⟩
    cases perform
    have answered : answer = (Command.perform v.now v.store
        (.deleteIfEqual p.lock (tokenText hold.token))).2 := answered
    cases answer with
    | ok reply => rfl
    | error f =>
      rw [show f = Command.invalidExpiry from Command.eq_invalidExpiry (Prod.ext rfl answered.symm)]
      rfl

end

/-! ## Alone -/

/-- How the locked section ends. -/
inductive SectionEnds : Except Failure Bool → Stage → Prop where
  | closing (hold : Hold) (outcome : Except Failure Bool) :
      SectionEnds (settle outcome) (.inside hold (.closing outcome))
  | failed (f : Failure) : SectionEnds (settle (.error f)) (.failed f)

theorem lockedSection_obeys {task : Nat} (since : Int) :
    (p.limiter.lockedSection p.world p.subject).Obeys p.protocol task SectionEnds
      (.inside ⟨0, since⟩ .granted) := by
  refine Routine.Obeys.catching (fun outcome st => st = .inside ⟨0, since⟩ (.closing outcome)
    ∨ ∃ f, outcome = .error f ∧ st = .failed f) ?_ ?_ ?_ ?_
  · refine Routine.Obeys.bind (fun reading st => st = handled ⟨0, since⟩ reading)
      (fun _ _ reading => ⟨_, .handle, rfl⟩) ?_ ?_
    · rintro acquired _ rfl
      have inner := @checkAndRecord_obeys p task ⟨0, since⟩ acquired
      exact inner.mono fun outcome st h => .inl h
    · rintro f _ rfl
      exact .inr ⟨f, rfl, rfl⟩
  · rintro limited _ (rfl | ⟨f, h, -⟩)
    · exact .closing _ (.ok limited)
    · cases h
  · intro f st h caught
    have hc : f.isCancellation = false := by simpa using caught
    have hs : settle (.error f) = .ok false := by simp [settle, hc]
    show SectionEnds (.ok false) st
    rw [← hs]
    rcases h with rfl | ⟨_, ⟨⟩, rfl⟩
    · exact .closing _ (.error f)
    · exact .failed f
  · intro f st h passed
    have hc : f.isCancellation = true := by simpa using passed
    have hs : settle (.error f) = .error f := by simp [settle, hc]
    rw [← hs]
    rcases h with rfl | ⟨_, ⟨⟩, rfl⟩
    · exact .closing _ (.error f)
    · exact .failed f

/-- Where a section is that runs alone, in a world that has moved on from `w`. -/
def SectionFrom (p : Site) (w : World) (acquired : Binary64) (now : Int) (v : World) :
    Stage → Prop
  | .inside _ phase => v.SameTime w ∧ p.OnCourse acquired now (w.reply p.key) phase
      ∧ v.store = if p.early phase then w.store
        else p.written w.now w.store (p.verdict acquired now (w.reply p.key)).2
  | .finished _ => True
  | _ => False

/-- A step of a section that runs alone. -/
theorem SectionFrom.step {w v : World} {acquired : Binary64} {now : Int} {stage stage' : Stage}
    {e : Event} (monotonic : w.monotonic = .ok acquired)
    (clock : w.read p.limiter.clock = .ok now) (inside : p.SectionFrom w acquired now v stage)
    (admits : v.Admits e) (perform : e.action = .perform) (step : p.Step stage e stage') :
    p.SectionFrom w acquired now (v.add e) stage' := by
  cases stage with
  | inside hold phase =>
    obtain ⟨same, on, store⟩ := inside
    rw [← same.monotonic] at monotonic
    rw [← same.read] at clock
    -- Before its effect the section finds the store as it was at first.
    have content : p.early phase = true → w.reply p.key = v.reply p.key := by
      intro early
      rw [if_pos early] at store
      rw [World.reply_eq, World.reply_eq, store, same.now]
    rcases on.step monotonic clock content admits perform step with
      ⟨phase', rfl, on', affects⟩ | ⟨outcome, -, -, rfl⟩
    · refine ⟨same.add e, on', ?_⟩
      cases affects with
      | apart _ early _ unchanged =>
        rw [early, unchanged]
        exact store
      | reads _ early _ unchanged =>
        rw [if_pos early.1] at store
        rw [if_pos early.2, unchanged]
        exact store
      | comes _ early late _ changed =>
        rw [if_pos early] at store
        rw [late, if_neg (by simp), changed, same.now, store]
    · trivial
  | finished outcome =>
    cases step with
    | log | count => trivial
    | drop _ isOpen | draw _ isOpen => cases isOpen
  | _ => cases inside

/-- **The locked section alone.** At an instant at which its clocks can be read the locked section
    comes to its verdict, and leaves the store as that says. -/
theorem lockedSection_run {s : System} (none : s.faults = []) {task : Nat} {acquired : Binary64}
    {now : Int} (monotonic : (World.of s []).monotonic = .ok acquired)
    (clock : s.read p.limiter.clock = .ok now) {s' : System} {result : Except Failure Bool}
    (run : (p.limiter.lockedSection p.world p.subject).run.run task s = (s', result)) :
    (World.of s' []).SameTime (.of s []) ∧ s'.faults = []
      ∧ result = settle (p.verdict acquired now ((World.of s []).reply p.key)).1
      ∧ s'.store = p.written s.elapsed s.store
          (p.verdict acquired now ((World.of s []).reply p.key)).2 := by
  have clock' : (World.of s []).read p.limiter.clock = .ok now := (World.read_of s [] _).trans clock
  have pass : ∀ v stage e stage' t, p.SectionFrom (.of s []) acquired now v stage →
      p.Step stage e stage' → e.effect.idles → v.now ≤ t →
      p.SectionFrom (.of s []) acquired now (v.atTime t) stage := by
    intro v stage e stage' t inside step idles _
    cases step with
    | wait | pause => cases inside
    | _ => cases idles
  obtain ⟨stage, h, inside, ends, none'⟩ := Proc.run_invariant
    (fun _ _ _ _ inside admits perform step => inside.step monotonic clock' admits perform step)
    pass (@lockedSection_obeys p task s.elapsed) none (h := [])
    ⟨⟨rfl, rfl, rfl⟩, trivial, rfl⟩
  rw [run] at inside ends none'
  generalize hr : (s', result).2 = told at ends
  cases ends with
  | closing hold outcome =>
    obtain ⟨same, on, store⟩ := inside
    have verdict : (p.verdict acquired now ((World.of s []).reply p.key)).1 = outcome := on
    exact ⟨⟨same.now, same.epoch, same.skews⟩, none', by rw [verdict]; exact hr, store⟩
  | failed f => cases inside

/-! ## A look alone -/

/-- Where a look is that runs alone, in a world that has moved on from `w`. -/
def LookFrom (p : Site) (w v : World) (stage : Stage) : Prop :=
  v.SameTime w ∧ v.store = w.store ∧ match stage with
    | .idle => True
    | .looked value => seen (w.reply p.key) = .looked value
    | .weighed _ | .failed _ =>
      p.glance (w.reply p.key) (w.read p.limiter.clock) = stage
    | _ => False

theorem unseen_cases (f : Failure) :
    Stage.unseen f = .weighed false ∨ ∃ g, Stage.unseen f = .failed g := by
  unfold Stage.unseen
  split
  · exact .inr ⟨f, rfl⟩
  · exact .inl rfl

/-- A step of a look that runs alone. -/
theorem LookFrom.step {w v : World} {stage stage' : Stage} {e : Event}
    (only : p.records = false ∧ p.drops = false) (look : p.LookFrom w v stage)
    (admits : v.Admits e) (perform : e.action = .perform) (step : p.Step stage e stage') :
    p.LookFrom w (v.add e) stage' := by
  obtain ⟨same, store, at_⟩ := look
  obtain ⟨-, answered⟩ := admits
  cases step with
  | log | count => exact ⟨same.add _, store, at_⟩
  | drop may =>
    rw [only.2] at may
    cases may
  | draw may =>
    rw [only.1] at may
    cases may
  | @look _ time task action reply =>
    cases perform
    have told : reply = w.reply p.key := by
      have now : reply = v.reply p.key := answered
      rw [now, World.reply_eq, World.reply_eq, store, same.now]
    refine ⟨same.add _, (Command.perform_get _ _ _).trans store, ?_⟩
    rw [told]
    cases found : (w.reply p.key).bind Cache.valueOf with
    | ok value =>
      have h : seen (w.reply p.key) = .looked value := by simp only [seen, found]
      rw [h]
    | error f =>
      have h : seen (w.reply p.key) = .unseen f := by simp only [seen, found]
      rcases unseen_cases f with g | ⟨g, g⟩ <;>
      · rw [h, g]
        simp only [glance, h, g]
  | @weigh value time task action reading =>
    have told : reading = w.read p.limiter.clock := by
      rw [← same.read]
      exact answered
    refine ⟨same.add _, store, ?_⟩
    have h : p.glance (w.reply p.key) (w.read p.limiter.clock) = p.weigh value reading := by
      rw [glance, show seen (w.reply p.key) = .looked value from at_, told]
    cases recent : reading.bind (p.limiter.recent value) with
    | ok recent' =>
      have g : p.weigh value reading = .weighed (p.limiter.capReached recent') := by
        simp only [weigh, recent]
      rw [h, g]
    | error f =>
      have g : p.weigh value reading = .unseen f := by simp only [weigh, recent]
      rw [g] at h ⊢
      rcases unseen_cases f with k | ⟨k, k⟩ <;>
      · rw [k] at h ⊢
        exact h
  | _ => cases at_

/-- **A look alone.** At an instant a look comes to what it finds at a glance, and changes nothing.
    -/
theorem isLimited_run {s : System} (none : s.faults = []) {task : Nat} (looks : p.looks)
    (only : p.records = false ∧ p.drops = false) {s' : System} {result : Except Failure Bool}
    (run : (p.limiter.isLimited p.world p.subject).run.run task s = (s', result)) :
    (World.of s' []).SameTime (.of s []) ∧ s'.faults = [] ∧ s'.store = s.store
      ∧ LookEnds result (p.glance ((World.of s []).reply p.key)
          ((World.of s []).read p.limiter.clock)) := by
  have pass : ∀ v stage e stage' t, p.LookFrom (.of s []) v stage → p.Step stage e stage' →
      e.effect.idles → v.now ≤ t → p.LookFrom (.of s []) (v.atTime t) stage := by
    intro v stage e stage' t look step idles _
    cases step with
    | wait | pause => cases look.2.2
    | _ => cases idles
  obtain ⟨stage, h, ⟨same, store, at_⟩, ends, none'⟩ := Proc.run_invariant
    (fun _ _ _ _ look admits perform step => look.step only admits perform step)
    pass (@isLimited_obeys p task looks) none (h := [])
    ⟨⟨rfl, rfl, rfl⟩, rfl, trivial⟩
  rw [run] at same store ends none'
  refine ⟨⟨same.now, same.epoch, same.skews⟩, none', store, ?_⟩
  generalize hr : (s', result).2 = told at ends
  rw [show result = told from hr]
  cases ends with
  | weighed limited =>
    rw [at_]
    exact .weighed limited
  | failed cancelled =>
    rw [at_]
    exact .failed cancelled

end Site

end Turnstile

import Turnstile.Proofs.Limiter.Deeds
import Turnstile.Proofs.Limiter.Linear

set_option autoImplicit false

/-! # Linearizability

Calls that count attempts and look at their number, run next to each other without faults, come to
what they come to one at a time, and leave the same records (`linearizable`). A record call has a
turn exactly when it acquires its lock and gets a handle, and takes it at the instant of that
(`Touched`). -/

namespace Turnstile

/-! ## Who has a turn -/

/-- A task acquired its lock at an instant. -/
def AcquiredAt (lock : String) (h : List Event) (i : Nat) (t : Int) : Prop :=
  ∃ e ∈ h, e.task = i ∧ e.time = t ∧ e.acquires lock

theorem AcquiredAt.append {lock : String} {h : List Event} {i : Nat} {t : Int}
    (a : AcquiredAt lock h i t) (k : List Event) : AcquiredAt lock (h ++ k) i t := by
  obtain ⟨e, he, rest⟩ := a
  exact ⟨e, List.mem_append_left k he, rest⟩

theorem AcquiredAt.cases {lock : String} {h : List Event} {e : Event} {i : Nat} {t : Int}
    (a : AcquiredAt lock (h ++ [e]) i t) :
    AcquiredAt lock h i t ∨ e.task = i ∧ e.time = t ∧ e.acquires lock := by
  obtain ⟨x, hx, rest⟩ := a
  rcases List.mem_append.1 hx with hx | hx
  · exact .inl ⟨x, hx, rest⟩
  · rw [List.mem_singleton.1 hx] at rest
    exact .inr rest

/-- The call has not read a record yet. -/
def Stage.unread : Stage → Bool
  | .delayed | .idle | .trying .. | .inside _ .granted | .inside _ (.begun _)
  | .inside _ (.timed ..) => true
  | _ => false

/-- What a step is to the turn of its call: nothing, the acquisition of the lock, or a touch. -/
inductive Site.Marks (p : Site) (stage : Stage) (e : Event) (stage' : Stage) : Prop where
  | apart (quiet : e.touches = false) (other : e.acquires p.lock = false)
      (unread : stage'.unread → stage.unread)
      (hold : ∀ hold, stage'.hold? = some hold → stage.hold? = some hold)
  | acquires (quiet : e.touches = false) (token : Nat) (again : Bool)
      (trying : stage = .trying token again)
      (granted : stage' = .inside ⟨token, e.time⟩ .granted) (acquires : e.acquires p.lock)
  | touches (touches : e.touches) (other : e.acquires p.lock = false) (read : stage'.unread = false)
      (hold : ∀ hold, stage'.hold? = some hold → stage.hold? = some hold)
      (inside : p.looks ∨ ∃ hold, stage.hold? = some hold)

theorem Site.unread_seen (reply : Except Failure Json) : (seen reply).unread = false := by
  unfold seen
  split
  · rfl
  · unfold Stage.unseen
    split <;> rfl

theorem Site.unread_weigh (p : Site) (value : Json) (reading : Except Failure Int) :
    (p.weigh value reading).unread = false := by
  unfold weigh
  split
  · rfl
  · unfold Stage.unseen
    split <;> rfl

theorem Site.unread_judge (p : Site) (hold : Hold) (acquired : Binary64) (now : Int)
    (reply : Except Failure Json) :
    (Stage.inside hold (p.judge acquired now reply)).unread = false := by
  unfold judge
  split
  · split <;> rfl
  · rfl

theorem Site.unread_prepare (p : Site) (hold : Hold) (acquired : Binary64) (timestamps : List Int)
    (reading : Except Failure Binary64) :
    (Stage.inside hold (p.prepare acquired timestamps reading)).unread = false := by
  fun_cases prepare p acquired timestamps reading <;> rfl

theorem Site.unread_kept (hold : Hold) (reply : Except Failure Json) :
    (Stage.inside hold (kept reply)).unread = false := by
  fun_cases kept reply <;> rfl

theorem Site.Step.marks {p : Site} {stage stage' : Stage} {e : Event} (step : p.Step stage e stage')
    (drops : p.drops = false) (weighed : stage = .weighed false → p.records = false) :
    p.Marks stage e stage' := by
  cases step with
  | log | count | wait | pause => exact .apart rfl rfl (fun h => h) fun _ h => h
  | look may => exact .touches rfl rfl (unread_seen _) (by simp [hold?_seen]) (.inl may)
  | weigh => exact .apart rfl rfl (by simp [unread_weigh]) (by simp [hold?_weigh])
  | drop may =>
    rw [drops] at may
    cases may
  | draw may isOpen =>
    refine .apart rfl rfl (fun _ => ?_) fun hold h => by cases h
    cases stage with
    | idle => rfl
    | weighed limited =>
      cases limited with
      | false =>
        rw [weighed rfl] at may
        cases may
      | true => cases isOpen
    | _ => cases isOpen
  | @contend token again time task action reply =>
    cases reply with
    | ok reply =>
      by_cases truthy : reply.truthy = true
      · refine .acquires rfl token again rfl ?_ ?_
        · simp only [tried, truthy, if_true]
        · simp [Event.acquires, truthy]
      · have stage : tried token time (.ok reply) = .trying token true := by
          simp only [tried, truthy]
          rfl
        rw [stage]
        exact .apart rfl (by simp [Event.acquires, truthy]) (fun _ => rfl) fun _ h => by cases h
    | error f =>
      refine .apart rfl rfl (fun _ => rfl) fun hold h => ?_
      simp only [tried] at h
      split at h <;> cases h
  | @handle hold time task action reading =>
    refine .apart rfl rfl (fun _ => rfl) fun hold' h => ?_
    cases reading <;> cases h
    rfl
  | time => exact .apart rfl rfl (fun _ => rfl) fun _ h => h
  | judge => exact .touches rfl rfl (unread_judge ..) (fun _ h => h) (.inr ⟨_, rfl⟩)
  | prepare => exact .apart rfl rfl (by simp [unread_prepare]) fun _ h => h
  | write => exact .touches rfl rfl (unread_kept ..) (fun _ h => h) (.inr ⟨_, rfl⟩)
  | allow => exact .apart rfl rfl (fun h => by cases h) fun _ h => h
  | release => exact .apart rfl rfl (fun h => by cases h) fun _ h => by cases h

/-- What a task has touched so far, and when it acquired its lock. -/
structure Touched (p : Site) (h : List Event) (i : Nat) (stage : Stage) : Prop where
  fresh : stage.unread → ∀ taken ∈ touchesOf h, taken.1 ≠ i
  inside : ∀ hold, stage.hold? = some hold → AcquiredAt p.lock h i hold.since
    ∧ ∀ taken ∈ touchesOf h, taken.1 = i → taken.2 = hold.since
  back : p.records → ∀ taken ∈ touchesOf h, taken.1 = i → AcquiredAt p.lock h i taken.2
  forth : p.records → ∀ t, AcquiredAt p.lock h i t → MonotonicReadable t →
    (i, t) ∈ touchesOf h ∨ ∃ hold, stage.hold? = some hold ∧ hold.since = t ∧ stage.unread

namespace Touched

variable {p : Site} {h : List Event} {i : Nat} {stage stage' : Stage} {e : Event}

/-- An event of another task leaves a task's touches as they are. -/
theorem mem_touchesOf_other (other : e.task ≠ i) (t : Int) :
    (i, t) ∈ touchesOf (h ++ [e]) ↔ (i, t) ∈ touchesOf h := by
  cases touches : e.touches with
  | false => rw [touchesOf_quiet h touches]
  | true =>
    rw [touchesOf_touches h touches, List.mem_append, List.mem_filter, List.mem_singleton]
    simp [Ne.symm other]

theorem other (touched : Touched p h i stage) (other : e.task ≠ i) :
    Touched p (h ++ [e]) i stage := by
  have old : ∀ taken ∈ touchesOf (h ++ [e]), taken.1 = i → taken ∈ touchesOf h := by
    rintro ⟨j, t⟩ ht rfl
    exact (mem_touchesOf_other other t).1 ht
  constructor
  · intro unread taken ht own
    exact touched.fresh unread taken (old taken ht own) own
  · intro hold hh
    obtain ⟨acquired, since⟩ := touched.inside hold hh
    exact ⟨acquired.append [e], fun taken ht own => since taken (old taken ht own) own⟩
  · intro records taken ht own
    exact (touched.back records taken (old taken ht own) own).append [e]
  · intro records t acquired readable
    rcases acquired.cases with acquired | ⟨own, -⟩
    · rcases touched.forth records t acquired readable with ht | inside
      · exact .inl ((mem_touchesOf_other other t).2 ht)
      · exact .inr inside
    · exact absurd own other

/-- A step of the task itself that neither acquires its lock nor touches a record. -/
theorem own_apart (touched : Touched p h e.task stage) (quiet : e.touches = false)
    (other : e.acquires p.lock = false) (unread : stage'.unread → stage.unread)
    (hold : ∀ hold, stage'.hold? = some hold → stage.hold? = some hold)
    (since : ∀ hold, stage.hold? = some hold → hold.since = e.time)
    (stays : ∀ hold, stage.hold? = some hold → stage.unread → e.touches = false →
      MonotonicReadable e.time → stage'.hold? = some hold ∧ stage'.unread) :
    Touched p (h ++ [e]) e.task stage' := by
  have same := touchesOf_quiet h quiet
  constructor
  · rw [same]
    exact fun u => touched.fresh (unread u)
  · rw [same]
    intro hold' hh
    obtain ⟨acquired, at_⟩ := touched.inside hold' (hold hold' hh)
    exact ⟨acquired.append [e], at_⟩
  · rw [same]
    exact fun records taken ht own => (touched.back records taken ht own).append [e]
  · rw [same]
    intro records t acquired readable
    rcases acquired.cases with acquired | ⟨-, -, acquires⟩
    · rcases touched.forth records t acquired readable with ht | ⟨hold', hh, rfl, u⟩
      · exact .inl ht
      · rw [since hold' hh] at readable
        obtain ⟨hh', u'⟩ := stays hold' hh u quiet readable
        exact .inr ⟨hold', hh', rfl, u'⟩
    · rw [other] at acquires
      cases acquires

/-- The task acquires its lock, and has had no turn. -/
theorem own_acquires {token : Nat} {again : Bool}
    (touched : Touched p h e.task (.trying token again)) (quiet : e.touches = false)
    (acquires : e.acquires p.lock) :
    Touched p (h ++ [e]) e.task (.inside ⟨token, e.time⟩ .granted) := by
  have same := touchesOf_quiet h quiet
  have mine : AcquiredAt p.lock (h ++ [e]) e.task e.time :=
    ⟨e, List.mem_append_right h (List.mem_singleton_self e), rfl, rfl, acquires⟩
  constructor
  · rw [same]
    exact fun _ => touched.fresh rfl
  · rw [same]
    intro hold hh
    cases hh
    exact ⟨mine, fun taken ht own => absurd own (touched.fresh rfl taken ht)⟩
  · rw [same]
    exact fun records taken ht own => absurd own (touched.fresh rfl taken ht)
  · intro records t acquired readable
    rcases acquired.cases with acquired | ⟨-, rfl, -⟩
    · rcases touched.forth records t acquired readable with ht | ⟨hold, hh, -⟩
      · exact absurd rfl (touched.fresh rfl _ ht)
      · cases hh
    · exact .inr ⟨_, rfl, rfl, rfl⟩

/-- The task touches its record, and its turn is now, at the instant at which it holds its lock. -/
theorem own_touches (touched : Touched p h e.task stage) (touches : e.touches)
    (other : e.acquires p.lock = false) (read : stage'.unread = false)
    (hold : ∀ hold, stage'.hold? = some hold → stage.hold? = some hold)
    (inside : p.looks ∨ ∃ hold, stage.hold? = some hold) (apart : p.looks → p.records = false)
    (since : ∀ hold, stage.hold? = some hold → hold.since = e.time) :
    Touched p (h ++ [e]) e.task stage' := by
  have same := touchesOf_touches h touches
  have new : ∀ taken ∈ touchesOf (h ++ [e]), taken.1 = e.task → taken.2 = e.time := by
    intro taken ht own
    rw [same] at ht
    rcases List.mem_append.1 ht with ht | ht
    · exact absurd own (of_decide_eq_true (List.mem_filter.1 ht).2)
    · rw [List.mem_singleton.1 ht]
  constructor
  · intro unread
    rw [read] at unread
    cases unread
  · intro hold' hh
    obtain ⟨acquired, -⟩ := touched.inside hold' (hold hold' hh)
    refine ⟨acquired.append [e], fun taken ht own => ?_⟩
    rw [new taken ht own, since hold' (hold hold' hh)]
  · intro records taken ht own
    rcases inside with looks | ⟨hold', hh⟩
    · rw [apart looks] at records
      cases records
    · rw [new taken ht own, ← since hold' hh]
      exact (touched.inside hold' hh).1.append [e]
  · intro records t acquired readable
    rcases acquired.cases with acquired | ⟨-, -, acquires⟩
    · rcases inside with looks | ⟨hold', hh⟩
      · rw [apart looks] at records
        cases records
      · -- It acquired its lock at this very instant, and only then.
        have mine : t = e.time := by
          rcases touched.forth records t acquired readable with ht | ⟨hold'', hh', rfl, -⟩
          · rw [← since hold' hh]
            exact (touched.inside hold' hh).2 _ ht rfl
          · exact since hold'' hh'
        left
        rw [mine, same]
        exact List.mem_append_right _ (List.mem_singleton_self _)
    · rw [other] at acquires
      cases acquires

/-- A step of the task itself. -/
theorem own (touched : Touched p h e.task stage) (marks : p.Marks stage e stage')
    (apart : p.looks → p.records = false)
    (since : ∀ hold, stage.hold? = some hold → hold.since = e.time)
    (stays : ∀ hold, stage.hold? = some hold → stage.unread → e.touches = false →
      MonotonicReadable e.time → stage'.hold? = some hold ∧ stage'.unread) :
    Touched p (h ++ [e]) e.task stage' := by
  cases marks with
  | apart quiet other unread hold => exact touched.own_apart quiet other unread hold since stays
  | acquires quiet token again trying granted acquires =>
    subst trying
    subst granted
    exact touched.own_acquires quiet acquires
  | touches touches other read hold inside =>
    exact touched.own_touches touches other read hold inside apart since

/-- A task that has not read its record keeps its lock until it does, where clocks can be read. -/
theorem stays {v : World} {hold : Hold} {phase : Phase}
    (clocks : ∃ now, v.read p.limiter.clock = .ok now) (admits : v.Admits e)
    (step : p.Step (.inside hold phase) e stage')
    (unread : (Stage.inside hold phase).unread) (quiet : e.touches = false)
    (readable : MonotonicReadable e.time) :
    stage'.hold? = some hold ∧ stage'.unread := by
  obtain ⟨time, answer⟩ := admits
  cases step with
  | log | count => exact ⟨rfl, unread⟩
  | drop _ isOpen | draw _ isOpen => cases isOpen
  | @handle _ _ _ _ reading =>
    rw [World.Admits.reading_eq ⟨time, answer⟩ readable]
    exact ⟨rfl, rfl⟩
  | @time _ _ _ _ _ reading =>
    obtain ⟨now, clock⟩ := clocks
    rw [show reading = .ok now from Eq.trans answer clock]
    exact ⟨rfl, rfl⟩
  | judge | write => cases quiet
  | prepare | allow | release => cases unread

end Touched

/-! ## The whole run -/

/-- Time that passes in a prompt run keeps what is known of the calls and the machine. -/
theorem Linear.pass {instances : Instances} {calls : List Delayed} {s : System} {q : Site}
    {actions : FaultAction → Prop} {c : Schedule (Except Failure CallResult)} {h : List Event}
    {stages : Nat → Stage} {t : Int} (counting : ∀ call ∈ calls, call.2.Counting)
    (inv : Linear instances calls s (Call.siteAt instances calls q) (.of c.system h) stages)
    (rest : (Call.regime instances calls q Schedule.prompt actions).AtRest c stages)
    (later : c.system.elapsed ≤ t) (may : Schedule.prompt.mayPass c t) :
    Linear instances calls s (Call.siteAt instances calls q) ((World.of c.system h).atTime t)
      stages := by
  rcases may with rfl | idle
  · exact inv
  · refine ⟨inv.exclusive.pass later, ⟨inv.aligned.epoch, inv.aligned.skews, inv.aligned.none,
      inv.aligned.store⟩, inv.had, fun i => (inv.line i).outside ?_ ?_⟩
    · exact fun value => Call.atRest_ne_looked counting rest i value
    · intro hold phase inside
      obtain ⟨⟨w, hw, cmd, effect⟩, -⟩ := Call.atRest_inside counting rest inside
      have idles := idle w hw
      rw [effect] at idles
      cases idles

/-- What is kept throughout. -/
theorem linear_keeps {instances : Instances} {calls : List Delayed} {s : System} {q : Site}
    (counting : ∀ call ∈ calls, call.2.Counting)
    (plain : Plain instances calls (Call.siteAt instances calls q)) :
    (Call.regime instances calls q Schedule.prompt (· = .perform)).Keeps fun v stages =>
      Linear instances calls s (Call.siteAt instances calls q) v stages
        ∧ ∀ i, Touched (Call.siteAt instances calls q i) v.history i (stages i) where
  perform := rfl
  event := by
    intro v stages e stage inv admits perform step
    obtain ⟨linear, touched⟩ := inv
    refine ⟨linear.event plain admits perform step, fun i => ?_⟩
    by_cases own : i = e.task
    · subst own
      rw [Function.update_self]
      have line := linear.line e.task
      have marks : (Call.siteAt instances calls q e.task).Marks (stages e.task) e stage := by
        refine step.marks (plain.drops _) fun weighed => ?_
        rw [weighed] at line
        exact plain.apart _ line.1
      refine (touched e.task).own marks (plain.apart _) ?_ ?_
      · intro hold hh
        cases hs : stages e.task with
        | inside hold' phase =>
          rw [hs] at line hh
          cases hh
          exact line.2.1.trans admits.time.symm
        | _ =>
          rw [hs] at hh
          cases hh
      · intro hold hh unread quiet readable
        cases hs : stages e.task with
        | inside hold' phase =>
          rw [hs] at hh step unread
          cases hh
          exact Touched.stays (plain.clocks _ v) admits step unread quiet readable
        | _ =>
          rw [hs] at hh
          cases hh
    · rw [Function.update_of_ne own]
      exact (touched i).other (Ne.symm own)
  pass := fun c h stages t inv rest later may => ⟨inv.1.pass counting rest later may, inv.2⟩
  outside := fun _ _ _ _ _ _ change => change.elim

/-! ## Linearizability -/

/-- A lock is acquired. -/
def Access.acquires (lock : String) (a : Access) : Bool :=
  match a.command, a.reply with
  | .setIfAbsent key _ _, .ok reply => key = lock && reply.truthy
  | _, _ => false

theorem acquiredAt_iff {lock : String} {h : List Event} {i : Nat} {t : Int} :
    AcquiredAt lock h i t
      ↔ ∃ a ∈ h.filterMap Event.access?, a.task = i ∧ a.time = t ∧ a.acquires lock := by
  constructor
  · rintro ⟨⟨time, task, effect, action, answer⟩, he, rfl, rfl, acquires⟩
    cases effect with
    | command c =>
      refine ⟨⟨time, task, c, answer⟩, List.mem_filterMap.2 ⟨_, he, rfl⟩, rfl, rfl, ?_⟩
      cases c with
      | setIfAbsent key value ttl => cases answer <;> exact acquires
      | _ => cases acquires
    | _ => cases acquires
  · rintro ⟨a, ha, rfl, rfl, acquires⟩
    obtain ⟨⟨time, task, effect, action, answer⟩, he, same⟩ := List.mem_filterMap.1 ha
    cases effect with
    | command c =>
      cases same
      refine ⟨_, he, rfl, rfl, ?_⟩
      cases c with
      | setIfAbsent key value ttl => cases answer <;> exact acquires
      | _ => cases acquires
    | _ => cases same

/-- Some site stands in for the numbers that are no task's, and then all sites are plain. -/
theorem exists_plain {instances : Instances} {calls : List Delayed}
    (counting : ∀ call ∈ calls, call.2.Counting)
    (separate : ∀ call ∈ calls, ∀ other ∈ calls, ∀ p q, call.2.site? instances = some p →
      other.2.site? instances = some q → p.key ≠ q.lock) :
    ∃ q, Plain instances calls (Call.siteAt instances calls q) := by
  have sites : ∀ call ∈ calls, ∃ p, call.2.site? instances = some p ∧ p.drops = false
      ∧ (p.looks → p.records = false) ∧ ∀ v : World, ∃ now, v.read p.limiter.clock = .ok now := by
    rintro ⟨delay, call⟩ hc
    have plain := counting _ hc
    cases call with
    | record | isLimited => exact ⟨_, rfl, rfl, by simp, fun v => ⟨_, rfl⟩⟩
    | _ => exact plain.elim
  have all : ∀ {Q : Site → Prop} (q : Site), Q q → (∀ call ∈ calls, ∀ p,
      call.2.site? instances = some p → p.drops = false → (p.looks → p.records = false) →
      (∀ v : World, ∃ now, v.read p.limiter.clock = .ok now) → Q p) →
      ∀ i, Q (Call.siteAt instances calls q i) := by
    intro Q q hq h
    refine Call.siteAt_all hq fun call hc p hp => ?_
    obtain ⟨p', hp', drops, apart, clocks⟩ := sites call hc
    obtain rfl : p = p' := Option.some.inj (hp.symm.trans hp')
    exact h call hc p hp drops apart clocks
  -- What stands in shares its keys with one of the calls, if there are any.
  have standIn : ∃ q : Site, q.looks = false ∧ q.records = false ∧ q.drops = false
      ∧ (∀ v : World, ∃ now, v.read q.limiter.clock = .ok now)
      ∧ ∀ i j, (Call.siteAt instances calls q i).key ≠ (Call.siteAt instances calls q j).lock := by
    cases hcalls : calls with
    | nil =>
      exact ⟨⟨instances.limiter 0, "", "", false, false, false⟩, rfl, rfl, rfl, fun v => ⟨_, rfl⟩,
        fun _ _ => attemptsKey_ne_lockKey _ _⟩
    | cons first rest =>
      have hfirst : first ∈ calls := by simp [hcalls]
      obtain ⟨p, hp, -, -, clocks⟩ := sites first hfirst
      rw [← hcalls]
      exact ⟨⟨p.limiter, p.world, p.subject, false, false, false⟩, rfl, rfl, rfl, clocks,
        Call.siteAt_key_ne_lock ⟨first, hfirst, p, hp, rfl, rfl⟩ separate⟩
  obtain ⟨q, looks, records, drops, clocks, apart⟩ := standIn
  refine ⟨q, ?_, ?_, ?_, ?_, apart⟩
  · intro i h
    obtain ⟨call, hi, hp⟩ := Call.siteAt_of (Q := fun p => p.looks ∨ p.records)
      (by simp [looks, records]) h
    exact ⟨call, hi, counting call (List.mem_of_getElem? hi), hp⟩
  · exact all q drops fun _ _ _ _ h _ _ => h
  · exact all (Q := fun p => p.looks → p.records = false) q (fun _ => records)
      fun _ _ _ _ _ h _ => h
  · exact all (Q := fun p => ∀ v : World, ∃ now, v.read p.limiter.clock = .ok now) q clocks
      fun _ _ _ _ _ _ h => h

/-- A call that has ended came to what is told of its turn, and to no without one. -/
theorem InLine.result {instances : Instances} {call : Call} {p : Site} {v : World}
    {told : Option (Except Failure CallResult)} {stage : Stage} {result : Except Failure CallResult}
    (line : InLine p v told stage) (counting : call.Counting) (hp : call.site? instances = some p)
    (ends : call.Ends result stage) : result = told.getD (.ok (.flag false)) := by
  cases call with
  | record i world subject =>
    cases hp
    obtain ⟨outcome, rfl, ends⟩ := ends
    generalize hr : outcome = settled at ends
    cases ends with
    | finished outcome =>
      rw [line.2]
      rfl
    | failed f =>
      rcases line with ⟨looks, -⟩ | ⟨-, none, ordinary⟩
      · cases looks
      · rw [none, Site.settle, ordinary]
        rfl
    | trying token again =>
      rw [line.2]
      rfl
  | isLimited i world subject =>
    cases hp
    obtain ⟨outcome, rfl, ends⟩ := ends
    cases ends with
    | weighed limited =>
      rw [line.2]
      rfl
    | failed cancelled =>
      rcases line with ⟨-, told⟩ | ⟨records, -⟩
      · rw [told]
        rfl
      · cases records
  | _ => exact counting.elim

/-- A look that has ended has had its turn. -/
theorem InLine.look_told {instances : Instances} {i : Nat} {world subject : String} {p : Site}
    {v : World} {told : Option (Except Failure CallResult)} {stage : Stage}
    {result : Except Failure CallResult} (line : InLine p v told stage)
    (hp : (Call.isLimited i world subject).site? instances = some p)
    (ends : (Call.isLimited i world subject).Ends result stage) : told ≠ none := by
  cases hp
  obtain ⟨outcome, rfl, ends⟩ := ends
  intro none
  cases ends with
  | weighed limited =>
    rw [line.2] at none
    cases none
  | failed cancelled =>
    rcases line with ⟨-, told⟩ | ⟨records, -⟩
    · rw [told] at none
      cases none
    · cases records

/-- At the start no call has had its turn. -/
theorem linear_start {instances : Instances} {calls : List Delayed} {s : System}
    {sites : Nat → Site} (none : s.faults = []) (m : Int) :
    Linear instances calls s sites (.of { s with elapsed := m } []) (fun _ => .delayed)
      ∧ ∀ i, Touched (sites i) [] i .delayed := by
  refine ⟨⟨.start fun _ => rfl, ⟨rfl, rfl, none, fun _ _ => rfl⟩, ?_, fun _ => rfl⟩, fun i => ?_⟩
  · exact fun taken ht => absurd ht List.not_mem_nil
  · constructor
    · exact fun _ taken ht => absurd ht List.not_mem_nil
    · exact fun hold hh => by cases hh
    · exact fun _ taken ht => absurd ht List.not_mem_nil
    · rintro _ t ⟨e, he, -⟩
      cases he

/-- A parallel step of counting calls ends with every call at its end, in line with the machine. -/
theorem exists_linear {instances : Instances} {calls : List Delayed} {s s' : System}
    {results : List CallResult} {q : Site} (counting : ∀ call ∈ calls, call.2.Counting)
    (none : s.faults = []) (plain : Plain instances calls (Call.siteAt instances calls q))
    (run : Step.run instances s (.parallel calls) = (s', .several results)) :
    ∃ h stages, s'.accesses = s.accesses ++ h.filterMap Event.access?
      ∧ Linear instances calls s (Call.siteAt instances calls q) (.of s' h) stages
      ∧ (∀ i, Touched (Call.siteAt instances calls q i) h i (stages i))
      ∧ (∀ i, calls[i]? = Option.none → stages i = .delayed)
      ∧ ∀ i (call : Delayed), calls[i]? = some call → ∃ result,
        results[i]? = some (CallResult.ofExcept result) ∧ call.2.Ends result (stages i) := by
  have sites : ∀ call ∈ calls, (call.2.site? instances).isSome := by
    rintro ⟨delay, call⟩ hc
    have counts := counting _ hc
    cases call with
    | record | isLimited => rfl
    | _ => exact counts.elim
  have rest₀ : (Call.regime instances calls q Schedule.prompt (· = .perform)).AtRest
      (Call.sideBySide instances calls s) fun _ => .delayed :=
    Call.atRest_sideBySide (by rfl) sites s
  have tame : ∀ f ∈ s.faults, f.action = .perform := by
    rw [none]
    exact fun f hf => absurd hf List.not_mem_nil
  obtain ⟨m, h, -, trace, -⟩ := Schedule.exists_prompt_run
    (r := Call.regime instances calls q Schedule.prompt (· = .perform)) rfl rfl rest₀ none
  obtain ⟨stages, ⟨linear, touched⟩, rest, -⟩ := Schedule.Run.invariant
    (r := Call.regime instances calls q Schedule.prompt (· = .perform))
    (linear_keeps counting plain) trace (linear_start none m) ⟨rest₀.1, rest₀.2⟩ tame
  have quiet : ∀ s s', (Schedule.prompt (α := Except Failure CallResult)).outside s s' →
      s'.trace = s.trace := fun _ _ change => change.elim
  have commands := trace.accesses quiet
  have length : (Call.sideBySide instances calls s).run.tasks.length = calls.length :=
    trace.length_tasks.trans (by simp [Schedule.start])
  cases run
  refine ⟨h, stages, commands, linear, touched, fun i hi => rest.2 i ?_, fun i call hi => ?_⟩
  · rw [List.getElem?_eq_none_iff] at hi ⊢
    exact length.trans_le hi
  · have lt : i < (Call.sideBySide instances calls s).run.tasks.length :=
      length.symm ▸ (List.getElem?_eq_some_iff.1 hi).1
    obtain ⟨result, there, call', hi', ends⟩ :=
      Schedule.atRest_ended rest (Schedule.step?_run _) lt
    obtain rfl : call = call' := Option.some.inj (hi.symm.trans hi')
    refine ⟨result, ?_, ends⟩
    rw [List.getElem?_map]
    exact congrArg (Option.map _) there

/-- **Linearizability.** Calls that count attempts and look at their number run next to each other
    without faults, on instances with any configurations and skews, from any store and after any
    delays; no record is kept under the key of a lock. Take one at a time, in the order of their
    last touches of a record and at the instants of these, each look and the locked section of each
    record call that has one. Then every call comes to what it comes to there, or to no when it has
    no turn, and the records are those that are left there. Every look has a turn; a record call has
    one at an instant only if it acquires its lock then, and has it if it also gets a handle. -/
theorem linearizable {instances : Instances} {calls : List Delayed} {s s' : System}
    {results : List CallResult} (counting : ∀ call ∈ calls, call.2.Counting) (none : s.faults = [])
    (separate : ∀ call ∈ calls, ∀ other ∈ calls, ∀ p q, call.2.site? instances = some p →
      other.2.site? instances = some q → p.key ≠ q.lock)
    (run : Step.run instances s (.parallel calls) = (s', .several results)) :
    ∃ accesses, s'.accesses = s.accesses ++ accesses
      ∧ (∀ i call, calls[i]? = some call → results[i]? = some (CallResult.ofExcept
          (((Call.oneByOne instances calls s (lastTouches accesses)).2.lookup i).getD
            (.ok (.flag false)))))
      ∧ (∀ call ∈ calls, ∀ p, call.2.site? instances = some p → ∀ t, s'.store.get? t p.key
          = (Call.oneByOne instances calls s (lastTouches accesses)).1.store.get? t p.key)
      ∧ ((lastTouches accesses).map Prod.fst).Nodup
      ∧ ∀ i call p, calls[i]? = some call → call.2.site? instances = some p →
        (p.looks → ∃ t, (i, t) ∈ lastTouches accesses)
          ∧ (p.records → ∀ t, ((i, t) ∈ lastTouches accesses →
                ∃ a ∈ accesses, a.task = i ∧ a.time = t ∧ a.acquires p.lock)
              ∧ ((∃ a ∈ accesses, a.task = i ∧ a.time = t ∧ a.acquires p.lock) →
                MonotonicReadable t → (i, t) ∈ lastTouches accesses)) := by
  obtain ⟨q, plain⟩ := exists_plain counting separate
  obtain ⟨h, stages, commands, linear, touched, vacant, ended⟩ :=
    exists_linear counting none plain run
  -- No call holds its lock any more, so that all turns are taken.
  have outside : ∀ i hold, (stages i).hold? ≠ some hold := by
    intro i hold hh
    cases hi : calls[i]? with
    | none =>
      rw [vacant i hi] at hh
      cases hh
    | some call =>
      obtain ⟨result, -, ends⟩ := ended i call hi
      cases hs : stages i with
      | inside hold' phase =>
        exact ends.ne_inside (counting call (List.mem_of_getElem? hi)) hold' phase hs
      | _ =>
        rw [hs] at hh
        cases hh
  have turns : turnsTaken (Call.siteAt instances calls q) stages h
      = lastTouches (h.filterMap Event.access?) := by
    refine List.filter_eq_self.2 fun taken _ => ?_
    cases hs : stages taken.1 with
    | inside hold phase => exact absurd (by rw [hs]; rfl) (outside taken.1 hold)
    | _ => rfl
  have line : ∀ i (call : Delayed) p, calls[i]? = some call → call.2.site? instances = some p →
      InLine p (.of s' h) ((Call.oneByOne instances calls s
        (lastTouches (h.filterMap Event.access?))).2.lookup i) (stages i) := by
    intro i call p hi hp
    have line := linear.line i
    rw [Call.siteAt_eq hi hp] at line
    rw [← turns]
    exact line
  refine ⟨h.filterMap Event.access?, commands, ?_, ?_, nodup_touchesOf h, ?_⟩
  · intro i call hi
    obtain ⟨result, there, ends⟩ := ended i call hi
    have hc := List.mem_of_getElem? hi
    obtain ⟨p, hp⟩ : ∃ p, call.2.site? instances = some p := by
      obtain ⟨delay, call⟩ := call
      have counts := counting _ hc
      cases call with
      | record | isLimited => exact ⟨_, rfl⟩
      | _ => exact counts.elim
    rw [there, ← (line i call p hi hp).result (counting call hc) hp ends]
  · intro call hc p hp t
    obtain ⟨i, hi⟩ := List.getElem?_of_mem hc
    have store := linear.aligned.store i t
    rw [Call.siteAt_eq hi hp] at store
    rw [← turns]
    exact store.symm
  · intro i call p hi hp
    have touched := touched i
    rw [Call.siteAt_eq hi hp] at touched
    refine ⟨fun looks => ?_, fun records t => ⟨fun ht => ?_, fun acquired readable => ?_⟩⟩
    · obtain ⟨result, -, ends⟩ := ended i call hi
      have line := line i call p hi hp
      have counts := counting call (List.mem_of_getElem? hi)
      obtain ⟨delay, call⟩ := call
      cases call with
      | isLimited => exact Call.mem_of_lookup_oneByOne (line.look_told hp ends)
      | record =>
        cases hp
        cases looks
      | _ => exact counts.elim
    · exact acquiredAt_iff.1 (touched.back records _ ht rfl)
    · rcases touched.forth records t (acquiredAt_iff.2 acquired) readable with ht | ⟨hold, hh, -⟩
      · exact ht
      · exact absurd hh (outside i hold)

/-- Two attempts at once, and a look in between. -/
def threeCalls : List Delayed :=
  [(0, .record 0 "w" "s"), (0, .record 0 "w" "s"), (50, .isLimited 0 "w" "s")]

/-- The three calls next to each other. -/
def threeAtOnce : Schedule (Except Failure CallResult) := Call.sideBySide ⟨[{}]⟩ threeCalls {}

/-- The three calls run to their end in twenty steps. -/
theorem run_threeAtOnce : threeAtOnce.run = threeAtOnce.after 20 :=
  Schedule.run_eq_after (Option.isNone_iff_eq_none.1 (by decide +kernel))

/-- The second attempt finds the lock taken and has its turn after the look. -/
theorem linearizable_of_threeCalls :
    lastTouches (Step.run ⟨[{}]⟩ {} (.parallel threeCalls)).1.accesses = [(0, 0), (2, 50), (1, 100)]
      ∧ ∃ results, (Step.run ⟨[{}]⟩ {} (.parallel threeCalls)).2 = .several results
        ∧ ∀ i call, threeCalls[i]? = some call → results[i]? = some (CallResult.ofExcept
          (((Call.oneByOne ⟨[{}]⟩ threeCalls {} [(0, 0), (2, 50), (1, 100)]).2.lookup i).getD
            (.ok (.flag false)))) := by
  have order : lastTouches (Step.run ⟨[{}]⟩ {} (.parallel threeCalls)).1.accesses
      = [(0, 0), (2, 50), (1, 100)] := by
    show lastTouches threeAtOnce.run.system.accesses = _
    rw [run_threeAtOnce]
    decide +kernel
  have counting : ∀ call ∈ threeCalls, call.2.Counting := by
    intro call hc
    simp only [threeCalls, List.mem_cons, List.not_mem_nil, or_false] at hc
    rcases hc with rfl | rfl | rfl <;> trivial
  have pair : ∀ call ∈ threeCalls, ∀ p, call.2.site? ⟨[{}]⟩ = some p →
      p.key = attemptsKey "w" "s" ∧ p.lock = lockKey "w" "s" := by
    intro call hc p hp
    simp only [threeCalls, List.mem_cons, List.not_mem_nil, or_false] at hc
    rcases hc with rfl | rfl | rfl <;>
    · cases hp
      exact ⟨rfl, rfl⟩
  have separate : ∀ call ∈ threeCalls, ∀ other ∈ threeCalls, ∀ p q,
      call.2.site? ⟨[{}]⟩ = some p → other.2.site? ⟨[{}]⟩ = some q → p.key ≠ q.lock := by
    intro call hc other ho p q hp hq
    rw [(pair call hc p hp).1, (pair other ho q hq).2]
    exact attemptsKey_ne_lockKey "w" "s"
  obtain ⟨s', results, run⟩ : ∃ s' results,
      Step.run ⟨[{}]⟩ {} (.parallel threeCalls) = (s', .several results) := ⟨_, _, rfl⟩
  obtain ⟨accesses, commands, same, -⟩ := linearizable counting rfl separate run
  rw [run] at order ⊢
  rw [show s'.accesses = accesses from commands] at order ⊢
  rw [order] at same
  exact ⟨order, results, rfl, same⟩

end Turnstile

import Turnstile.Proofs.Limiter.OneByOne

set_option autoImplicit false

/-! # Calls side by side are calls one at a time

Without faults, what calls come to that run next to each other, and the records that they leave, are
what they come to and leave one at a time, each taking its turn when it last touches a record.

The invariant compares the calls with the machine that has taken the turns of those whose effect has
come. Of each call it says whether it had its turn and, if so, that its result there is the one that
it is bound to come to (`InLine`). -/

namespace Turnstile

/-! ## Turns taken -/

/-- A call that has read its record under the lock and has still to come to its effect. -/
def Stage.pends (p : Site) : Stage → Bool
  | .inside _ phase => p.pends phase
  | _ => false

/-- The turns of the calls whose effect has come. -/
def turnsTaken (sites : Nat → Site) (stages : Nat → Stage) (h : List Event) : List (Nat × Int) :=
  (touchesOf h).filter fun taken => !(stages taken.1).pends (sites taken.1)

section

variable {sites : Nat → Site} {stages : Nat → Stage} {h : List Event} {e : Event} {stage : Stage}

/-- An event that touches no record and brings no read about leaves the turns as they are. -/
theorem turnsTaken_of_quiet (quiet : e.touches = false)
    (same : stage.pends (sites e.task) = (stages e.task).pends (sites e.task)) :
    turnsTaken sites (Function.update stages e.task stage) (h ++ [e])
      = turnsTaken sites stages h := by
  rw [turnsTaken, touchesOf_quiet h quiet]
  refine List.filter_congr fun taken _ => ?_
  by_cases ht : taken.1 = e.task
  · rw [ht, Function.update_self, same]
  · rw [Function.update_of_ne ht]

/-- The turns of the others, where the task of an event has had none. -/
theorem filter_others (new : ∀ taken ∈ turnsTaken sites stages h, taken.1 ≠ e.task) :
    ((touchesOf h).filter (·.1 ≠ e.task)).filter
        (fun taken => !(Function.update stages e.task stage taken.1).pends (sites taken.1))
      = turnsTaken sites stages h := by
  rw [List.filter_filter]
  refine List.filter_congr fun taken ht => ?_
  by_cases own : taken.1 = e.task
  · have pending : (stages taken.1).pends (sites taken.1) = true := by
      by_contra no
      exact new taken (List.mem_filter.2 ⟨ht, by simpa using no⟩) own
    simp [own, ← own ▸ pending]
  · rw [Function.update_of_ne own]
    simp [own]

/-- A read under the lock that brings no effect yet takes no turn. -/
theorem turnsTaken_of_reads (touches : e.touches) (pends : stage.pends (sites e.task))
    (new : ∀ taken ∈ turnsTaken sites stages h, taken.1 ≠ e.task) :
    turnsTaken sites (Function.update stages e.task stage) (h ++ [e])
      = turnsTaken sites stages h := by
  rw [turnsTaken, touchesOf_touches h touches, List.filter_append, filter_others new]
  simp [pends]

/-- A touch that is the effect of its call takes the call's turn. -/
theorem turnsTaken_of_comes (touches : e.touches) (pends : stage.pends (sites e.task) = false)
    (new : ∀ taken ∈ turnsTaken sites stages h, taken.1 ≠ e.task) :
    turnsTaken sites (Function.update stages e.task stage) (h ++ [e])
      = turnsTaken sites stages h ++ [(e.task, e.time)] := by
  rw [turnsTaken, touchesOf_touches h touches, List.filter_append, filter_others new]
  simp [pends]

end

/-! ## What is told of a call -/

/-- A call at a stage has had no turn, or `told` is what its turn came to, and it is bound to come
    to the same. -/
def InLine (p : Site) (v : World) (told : Option (Except Failure CallResult)) : Stage → Prop
  | .delayed | .idle => told = none
  | .looked value => p.looks ∧ ∃ result, told = some (result.map .flag)
      ∧ Site.LookEnds result (p.weigh value (v.read p.limiter.clock))
  | .weighed limited => p.looks ∧ told = some (.ok (.flag limited))
  | .dropped => False
  | .trying .. => p.records ∧ told = none
  | .inside hold phase => p.records ∧ hold.since = v.now ∧ 0 < p.ttl
      ∧ (phase = .granted ∧ told = none
        ∨ ∃ acquired now reply, v.monotonic = .ok acquired ∧ v.read p.limiter.clock = .ok now
          ∧ p.OnCourse acquired now reply phase
          ∧ if p.early phase then told = none ∧ reply = v.reply p.key
            else told = some ((Site.settle (p.verdict acquired now reply).1).map .flag))
  | .finished outcome => p.records ∧ told = some ((Site.settle outcome).map .flag)
  | .failed f => p.looks ∧ told = some (.error f)
      ∨ p.records ∧ told = none ∧ f.isCancellation = false

namespace InLine

variable {p : Site} {v v' : World} {told : Option (Except Failure CallResult)} {stage : Stage}

/-- It takes no more of the world than the clocks, and the record of a call whose effect is still to
    come. -/
theorem congr (line : InLine p v told stage) (same : v'.SameTime v)
    (content : ∀ hold phase, stage = .inside hold phase → p.early phase →
      v'.reply p.key = v.reply p.key) : InLine p v' told stage := by
  cases stage with
  | looked value =>
    obtain ⟨looks, result, ht, ends⟩ := line
    rw [← same.read] at ends
    exact ⟨looks, result, ht, ends⟩
  | inside hold phase =>
    obtain ⟨records, since, ttl, rest⟩ := line
    refine ⟨records, since.trans same.now.symm, ttl, ?_⟩
    rcases rest with granted | ⟨acquired, now, reply, monotonic, clock, on, rest⟩
    · exact .inl granted
    · rw [← same.monotonic] at monotonic
      rw [← same.read] at clock
      refine .inr ⟨acquired, now, reply, monotonic, clock, on, ?_⟩
      split at rest
      · next early =>
        rw [if_pos early]
        exact ⟨rest.1, rest.2.trans (content hold phase rfl early).symm⟩
      · next late =>
        rw [if_neg late]
        exact rest
  | _ => exact line

/-- Of a call that neither holds its lock nor weighs what it has found it takes nothing at all. -/
theorem outside (line : InLine p v told stage) (looked : ∀ value, stage ≠ .looked value)
    (inside : ∀ hold phase, stage ≠ .inside hold phase) : InLine p v' told stage := by
  cases stage with
  | looked value => exact absurd rfl (looked value)
  | inside hold phase => exact absurd rfl (inside hold phase)
  | _ => exact line

end InLine

/-! ## What a step tells -/

/-- What is asked of the sites: one that looks or records is that of a counting call, none does both
    or drops a record, their clocks can be read, and no record is kept under the key of a lock. -/
structure Plain (instances : Instances) (calls : List Delayed) (sites : Nat → Site) : Prop where
  call : ∀ i, (sites i).looks ∨ (sites i).records → ∃ call, calls[i]? = some call
    ∧ call.2.Counting ∧ call.2.site? instances = some (sites i)
  drops : ∀ i, (sites i).drops = false
  apart : ∀ i, (sites i).looks → (sites i).records = false
  clocks : ∀ i (v : World), ∃ now, v.read (sites i).limiter.clock = .ok now
  separate : ∀ i j, (sites i).key ≠ (sites j).lock

/-- A step that is quiet towards the turns: it touches no record, or only reads one while the call's
    effect is still to come, and leaves all records as they are. -/
structure Quiet (sites : Nat → Site) (v : World) (stage : Stage) (e : Event) (stage' : Stage)
    (told : Option (Except Failure CallResult)) : Prop where
  turns : e.touches = false ∧ stage'.pends (sites e.task) = stage.pends (sites e.task)
    ∨ e.touches ∧ stage'.pends (sites e.task) ∧ told = none
  store : ∀ i t, (v.add e).store.get? t (sites i).key = v.store.get? t (sites i).key
  line : InLine (sites e.task) (v.add e) told stage'

section

variable {instances : Instances} {calls : List Delayed} {sites : Nat → Site} {v : World} {e : Event}
  {stage' : Stage} {told : Option (Except Failure CallResult)}

/-- An event that is no command leaves all records as they are. -/
theorem store_of_noCommand (h : ∀ c, e.effect ≠ .command c) (i : Nat) (t : Int) :
    (v.add e).store.get? t (sites i).key = v.store.get? t (sites i).key :=
  World.get?_add_of_ne v e _ (fun c hc => absurd hc (h c)) t

/-- A command about a lock leaves all records as they are. -/
theorem Plain.store_of_lock (plain : Plain instances calls sites) {j : Nat}
    (h : ∀ c, e.effect = .command c → c.key? = some (sites j).lock) (i : Nat) (t : Int) :
    (v.add e).store.get? t (sites i).key = v.store.get? t (sites i).key := by
  refine World.get?_add_of_ne v e _ (fun c hc same => ?_) t
  rw [h c hc, Option.some.injEq] at same
  exact plain.separate i j same.symm

/-- A try for the lock is quiet. -/
theorem quiet_contend (plain : Plain instances calls sites) {task token : Nat} {again : Bool}
    {reply : Except Failure Json} (line : InLine (sites task) v told (.trying token again))
    (answer : reply = (Command.perform v.now v.store
      (.setIfAbsent (sites task).lock (tokenText token) (sites task).ttl)).2) :
    Quiet sites v (.trying token again)
      ⟨v.now, task, .command (.setIfAbsent (sites task).lock (tokenText token) (sites task).ttl),
        .perform, reply⟩ (Site.tried token v.now reply) told := by
  have store := plain.store_of_lock (v := v) (j := task) (e := ⟨v.now, task,
    .command (.setIfAbsent (sites task).lock (tokenText token) (sites task).ttl), .perform, reply⟩)
    (by rintro c ⟨⟩; rfl)
  obtain ⟨records, none⟩ := line
  cases reply with
  | ok reply =>
    by_cases truthy : reply.truthy = true
    · have ttl : 0 < (sites task).ttl := by
        by_contra no
        rw [Command.perform, if_pos (by omega)] at answer
        cases answer
      have stage : Site.tried token v.now (.ok reply) = .inside ⟨token, v.now⟩ .granted := by
        simp only [Site.tried, truthy, if_true]
      rw [stage]
      exact ⟨.inl ⟨rfl, rfl⟩, store, records, rfl, ttl, .inl ⟨rfl, none⟩⟩
    · have stage : Site.tried token v.now (.ok reply) = .trying token true := by
        simp only [Site.tried, truthy]
        rfl
      rw [stage]
      exact ⟨.inl ⟨rfl, rfl⟩, store, records, none⟩
  | error f =>
    have refused : f = Command.invalidExpiry := Command.eq_invalidExpiry (Prod.ext rfl answer.symm)
    have stage : Site.tried token v.now (.error f) = .trying token true := by
      rw [refused]
      rfl
    rw [stage]
    exact ⟨.inl ⟨rfl, rfl⟩, store, records, none⟩

/-- A reading of the monotonic clock for the handle is quiet. -/
theorem quiet_handle (plain : Plain instances calls sites) {time : Int} {task : Nat} {hold : Hold}
    {reading : Except Failure Binary64}
    (line : InLine (sites task) v told (.inside hold .granted))
    (answer : reading = v.monotonic) :
    Quiet sites v (.inside hold .granted) ⟨time, task, .monotonic, .perform, reading⟩
      (Site.handled hold reading) told := by
  have store : ∀ i t, (v.add ⟨time, task, .monotonic, .perform, reading⟩).store.get? t (sites i).key
      = v.store.get? t (sites i).key := store_of_noCommand fun c h => by cases h
  obtain ⟨records, since, ttl, rest⟩ := line
  have none : told = none := by
    rcases rest with ⟨-, none⟩ | ⟨_, _, _, -, -, -, none⟩
    · exact none
    · exact none.1
  cases reading with
  | ok acquired =>
    obtain ⟨now, clock⟩ := plain.clocks task v
    exact ⟨.inl ⟨rfl, rfl⟩, store, records, since, ttl, .inr ⟨acquired, now, v.reply _, answer.symm,
      clock, rfl, none, rfl⟩⟩
  | error f =>
    -- A clock that cannot be read ends the call, with an ordinary failure and no turn.
    have ordinary : f.isCancellation = false := by
      unfold World.monotonic at answer
      cases h : clockSeconds v.now with
      | ok x =>
        rw [h] at answer
        cases answer
      | error x =>
        rw [h] at answer
        cases answer
        rfl
    exact ⟨.inl ⟨rfl, rfl⟩, store, .inr ⟨records, none, ordinary⟩⟩

end

/-- A step that takes its call's turn: the machine comes to a result to which the call is bound now,
    and to the same records. -/
structure Takes (instances : Instances) (calls : List Delayed) (sites : Nat → Site)
    (m : System × List (Nat × Except Failure CallResult)) (v : World) (stage : Stage) (e : Event)
    (stage' : Stage) (told : Option (Except Failure CallResult)) : Prop where
  touches : e.touches
  pends : stage'.pends (sites e.task) = false
  none : told = none
  key : ∀ c, e.effect = .command c → c.key? = some (sites e.task).key
  store : (∃ hold, stage.hold? = some hold) ∨ (v.add e).store = v.store
  turn : ∃ result,
    (Call.turn instances calls m (e.task, v.now)).2 = m.2 ++ [(e.task, result)]
      ∧ Aligned sites (v.add e) (Call.turn instances calls m (e.task, v.now)).1
      ∧ InLine (sites e.task) (v.add e) (some result) stage'

section

variable {instances : Instances} {calls : List Delayed} {sites : Nat → Site} {v : World}
  {m : System × List (Nat × Except Failure CallResult)} {told : Option (Except Failure CallResult)}

/-- The read of a look takes its turn. -/
theorem takes_look (plain : Plain instances calls sites) (aligned : Aligned sites v m.1)
    {task : Nat} {reply : Except Failure Json} (looks : (sites task).looks) (none : told = none)
    (answer : reply = v.reply (sites task).key) :
    Takes instances calls sites m v .idle
      ⟨v.now, task, .command (.get (sites task).key), .perform, reply⟩ (Site.seen reply) told := by
  have unchanged : (v.add ⟨v.now, task, .command (.get (sites task).key), .perform, reply⟩).store
      = v.store := Command.perform_get _ _ _
  obtain ⟨call, hi, counting, hp⟩ := plain.call task (.inl looks)
  obtain ⟨aligned', told, results, ends⟩ := Call.turn_look aligned hi counting hp rfl looks
  refine ⟨rfl, ?_, none, by rintro c ⟨⟩; rfl, .inr unchanged, told.map .flag, results,
    ⟨aligned'.epoch, aligned'.skews, aligned'.none, by rw [unchanged]; exact aligned'.store⟩, ?_⟩
  · have h := (Site.hold?_seen reply).1
    cases hs : Site.seen reply with
    | inside hold phase =>
      rw [hs] at h
      cases h
    | _ => rfl
  · rw [← answer] at ends
    cases found : reply.bind Cache.valueOf with
    | ok value =>
      have h : Site.seen reply = .looked value := by simp only [Site.seen, found]
      rw [Site.glance, h] at ends
      rw [h]
      exact ⟨looks, told, rfl, ends⟩
    | error f =>
      have h : Site.seen reply = .unseen f := by simp only [Site.seen, found]
      rcases Site.unseen_cases f with g | ⟨g, g⟩
      · rw [Site.glance, h, g] at ends
        rw [h, g]
        cases ends
        exact ⟨looks, rfl⟩
      · rw [Site.glance, h, g] at ends
        rw [h, g]
        cases ends
        exact .inl ⟨looks, rfl⟩

/-- A step outside the lock is quiet or takes its call's turn. -/
theorem step_outside (plain : Plain instances calls sites) (aligned : Aligned sites v m.1)
    {e : Event} {stage stage' : Stage} (line : InLine (sites e.task) v told stage)
    (outside : ∀ hold phase, stage ≠ .inside hold phase) (admits : v.Admits e)
    (perform : e.action = .perform) (step : (sites e.task).Step stage e stage') :
    Quiet sites v stage e stage' told ∨ Takes instances calls sites m v stage e stage' told := by
  obtain ⟨time, answered⟩ := admits
  obtain ⟨_, task, effect, action, answer⟩ := e
  cases perform
  cases time
  have step : (sites task).Step stage ⟨v.now, task, effect, .perform, answer⟩ stage' := step
  cases step with
  | log | count =>
    refine .inl ⟨.inl ⟨rfl, rfl⟩, store_of_noCommand (fun c h => by cases h), ?_⟩
    exact line.congr ⟨rfl, rfl, rfl⟩ fun hold phase h => absurd h (outside hold phase)
  | wait => exact .inl ⟨.inl ⟨rfl, rfl⟩, store_of_noCommand (fun c h => by cases h), line⟩
  | pause => exact .inl ⟨.inl ⟨rfl, rfl⟩, store_of_noCommand (fun c h => by cases h), line⟩
  | look may => exact .inr (takes_look plain aligned may line answered)
  | @weigh value _ _ _ reading =>
    obtain ⟨looks, result, ht, ends⟩ := line
    rw [show v.read (sites task).limiter.clock = reading from answered.symm] at ends
    refine .inl ⟨.inl ⟨rfl, ?_⟩, store_of_noCommand (fun c h => by cases h), ?_⟩
    · generalize (sites task).weigh value reading = stage at ends
      cases ends <;> rfl
    · show InLine (sites task) _ told ((sites task).weigh value reading)
      generalize (sites task).weigh value reading = stage at ends
      cases ends with
      | weighed limited => exact ⟨looks, ht⟩
      | failed => exact .inl ⟨looks, ht⟩
  | drop may =>
    rw [plain.drops] at may
    cases may
  | @draw _ may isOpen =>
    refine .inl ⟨.inl ⟨rfl, ?_⟩, store_of_noCommand (fun c h => by cases h), may, ?_⟩
    · cases stage with
      | inside hold phase => exact absurd rfl (outside hold phase)
      | _ => rfl
    · cases stage with
      | idle => exact line
      | weighed limited =>
        rw [plain.apart _ line.1] at may
        cases may
      | _ => cases isOpen
  | contend => exact .inl (quiet_contend plain line answered)
  | _ => exact absurd rfl (outside _ _)

/-- A step under the lock is quiet or takes its call's turn. -/
theorem step_inside (plain : Plain instances calls sites) (aligned : Aligned sites v m.1)
    {e : Event} {hold : Hold} {phase : Phase} {stage' : Stage}
    (line : InLine (sites e.task) v told (.inside hold phase)) (admits : v.Admits e)
    (perform : e.action = .perform) (step : (sites e.task).Step (.inside hold phase) e stage') :
    Quiet sites v (.inside hold phase) e stage' told
      ∨ Takes instances calls sites m v (.inside hold phase) e stage' told := by
  obtain ⟨records, since, ttl, rest⟩ := id line
  rcases rest with ⟨rfl, none⟩ | ⟨acquired, now, reply, monotonic, clock, on, rest⟩
  · obtain ⟨-, answered⟩ := admits
    obtain ⟨time, task, effect, action, answer⟩ := e
    cases perform
    have step : (sites task).Step _ ⟨time, task, effect, .perform, answer⟩ stage' := step
    cases step with
    | log | count =>
      exact .inl ⟨.inl ⟨rfl, rfl⟩, store_of_noCommand (fun c h => by cases h), records, since, ttl,
        .inl ⟨rfl, none⟩⟩
    | drop _ isOpen | draw _ isOpen => cases isOpen
    | handle => exact .inl (quiet_handle plain line answered)
  · have content : (sites e.task).early phase = true → reply = v.reply (sites e.task).key := by
      intro early
      rw [if_pos early] at rest
      exact rest.2
    rcases on.step monotonic clock content admits perform step with
      ⟨phase', rfl, on', affects⟩ | ⟨outcome, rfl, effect, rfl⟩
    · cases affects with
      | apart quiet early pends unchanged =>
        refine .inl ⟨.inl ⟨quiet, pends⟩, fun i t => by rw [unchanged], records, since, ttl,
          .inr ⟨acquired, now, reply, monotonic, clock, on', ?_⟩⟩
        rw [early, World.reply_eq, unchanged, World.add_now, ← World.reply_eq]
        exact rest
      | reads touches early pends unchanged =>
        -- The read is a touch, but the turn is yet to come: the section will write.
        rw [if_pos early.1] at rest
        refine .inl ⟨.inr ⟨touches, pends, rest.1⟩, fun i t => by rw [unchanged], records, since,
          ttl, .inr ⟨acquired, now, reply, monotonic, clock, on', ?_⟩⟩
        rw [if_pos early.2, World.reply_eq, unchanged, World.add_now, ← World.reply_eq]
        exact rest
      | comes touches early late key changed =>
        -- The machine runs the whole section now, on the record that the section has read.
        rw [if_pos early] at rest
        obtain ⟨call, hi, counting, hp⟩ := plain.call e.task (.inr records)
        obtain ⟨aligned', results⟩ :=
          Call.turn_record aligned hi counting hp rfl records monotonic clock
        rw [← rest.2] at aligned' results
        refine .inr ⟨touches, ?_, rest.1, key, .inl ⟨hold, rfl⟩, _, results,
          ⟨aligned'.epoch, aligned'.skews, aligned'.none, by rw [changed]; exact aligned'.store⟩,
          records, since, ttl, .inr ⟨acquired, now, reply, monotonic, clock, on', ?_⟩⟩
        · show (sites e.task).pends phase' = false
          unfold Site.pends
          split <;> first | exact late | rfl
        · rw [late, if_neg (by simp)]
    · have store := plain.store_of_lock (v := v) (j := e.task) (e := e) (by
        intro c hc
        rw [effect] at hc
        cases hc
        rfl)
      have verdict : ((sites e.task).verdict acquired now reply).1 = outcome := on
      have quiet : e.touches = false := by rw [Event.touches, effect]
      rw [if_neg (by simp [Site.early]), verdict] at rest
      exact .inl ⟨.inl ⟨quiet, rfl⟩, store, records, rest⟩

end

/-! ## The invariant -/

/-- The machine after the turns of the calls whose effect has come. -/
def machine (instances : Instances) (calls : List Delayed) (s : System) (sites : Nat → Site)
    (stages : Nat → Stage) (h : List Event) : System × List (Nat × Except Failure CallResult) :=
  Call.oneByOne instances calls s (turnsTaken sites stages h)

/-- What holds throughout a run of the calls and the machine that has taken their turns. -/
structure Linear (instances : Instances) (calls : List Delayed) (s : System) (sites : Nat → Site)
    (v : World) (stages : Nat → Stage) : Prop where
  exclusive : Exclusive sites v stages
  aligned : Aligned sites v (machine instances calls s sites stages v.history).1
  had : ∀ taken ∈ turnsTaken sites stages v.history,
    (machine instances calls s sites stages v.history).2.lookup taken.1 ≠ none
  line : ∀ i, InLine (sites i) v ((machine instances calls s sites stages v.history).2.lookup i)
    (stages i)

namespace Linear

variable {instances : Instances} {calls : List Delayed} {s : System} {sites : Nat → Site}
  {v : World} {stages : Nat → Stage}

/-- A call whose effect is still to come is the only one that may write its record. -/
theorem key_ne (inv : Linear instances calls s sites v stages) {i j : Nat} (other : j ≠ i)
    {hold hold' : Hold} (hi : (stages i).hold? = some hold) (hj : (stages j).hold? = some hold') :
    (sites j).key ≠ (sites i).key := by
  intro same
  have live : ∀ k hold, (stages k).hold? = some hold → v.now < hold.since + (sites k).ttl := by
    intro k hold hk
    have line := inv.line k
    cases hs : stages k with
    | inside h phase =>
      rw [hs] at line hk
      cases hk
      obtain ⟨-, since, ttl, -⟩ := line
      omega
    | _ =>
      rw [hs] at hk
      cases hk
  exact other (inv.exclusive.unique hj hi (lockKey_congr same) (live j _ hj) (live i _ hi))

/-- A call that has no result yet has had no turn. -/
theorem fresh (inv : Linear instances calls s sites v stages) {i : Nat}
    (none : (machine instances calls s sites stages v.history).2.lookup i = none) :
    ∀ taken ∈ turnsTaken sites stages v.history, taken.1 ≠ i := by
  intro taken ht own
  exact inv.had taken ht (own ▸ none)

/-- A quiet step leaves the machine as it is. -/
theorem quiet (inv : Linear instances calls s sites v stages) {e : Event} {stage : Stage}
    (exclusive : Exclusive sites (v.add e) (Function.update stages e.task stage))
    (quiet : Quiet sites v (stages e.task) e stage
      ((machine instances calls s sites stages v.history).2.lookup e.task)) :
    Linear instances calls s sites (v.add e) (Function.update stages e.task stage) := by
  have turns : turnsTaken sites (Function.update stages e.task stage) (v.add e).history
      = turnsTaken sites stages v.history := by
    rcases quiet.turns with ⟨h, same⟩ | ⟨touches, pends, none⟩
    · exact turnsTaken_of_quiet h same
    · exact turnsTaken_of_reads touches pends (inv.fresh none)
  have same : machine instances calls s sites (Function.update stages e.task stage)
      (v.add e).history = machine instances calls s sites stages v.history := by
    rw [machine, turns, machine]
  refine ⟨exclusive, ?_, ?_, ?_⟩
  · rw [same]
    refine ⟨inv.aligned.epoch, inv.aligned.skews, inv.aligned.none, fun i t => ?_⟩
    rw [quiet.store]
    exact inv.aligned.store i t
  · rw [same, turns]
    exact inv.had
  · intro j
    rw [same]
    by_cases own : j = e.task
    · rw [own, Function.update_self]
      exact quiet.line
    · rw [Function.update_of_ne own]
      refine (inv.line j).congr ⟨rfl, rfl, rfl⟩ fun hold phase _ _ => ?_
      rw [World.reply_eq, World.reply_eq, quiet.store]
      rfl

/-- A step that takes its call's turn is the machine's next one. -/
theorem takes (inv : Linear instances calls s sites v stages) {e : Event} {stage : Stage}
    (admits : v.Admits e)
    (exclusive : Exclusive sites (v.add e) (Function.update stages e.task stage))
    (takes : Takes instances calls sites (machine instances calls s sites stages v.history) v
      (stages e.task) e stage
      ((machine instances calls s sites stages v.history).2.lookup e.task)) :
    Linear instances calls s sites (v.add e) (Function.update stages e.task stage) := by
  obtain ⟨result, results, aligned, bound⟩ := takes.turn
  have turns : turnsTaken sites (Function.update stages e.task stage) (v.add e).history
      = turnsTaken sites stages v.history ++ [(e.task, v.now)] := by
    rw [← admits.time]
    exact turnsTaken_of_comes takes.touches takes.pends (inv.fresh takes.none)
  have taken : machine instances calls s sites (Function.update stages e.task stage)
      (v.add e).history
      = Call.turn instances calls (machine instances calls s sites stages v.history)
          (e.task, v.now) := by
    rw [machine, turns, Call.oneByOne_append, machine]
  have told : (machine instances calls s sites (Function.update stages e.task stage)
      (v.add e).history).2.lookup e.task = some result := by
    rw [taken, results, List.lookup_append, takes.none]
    simp
  have others : ∀ j, j ≠ e.task → (machine instances calls s sites
      (Function.update stages e.task stage) (v.add e).history).2.lookup j
        = (machine instances calls s sites stages v.history).2.lookup j := by
    intro j hj
    have apart : (j == e.task) = false := by simpa using hj
    rw [taken, results, List.lookup_append]
    simp [List.lookup_cons, apart]
  refine ⟨exclusive, ?_, ?_, ?_⟩
  · rw [taken]
    exact aligned
  · rw [turns]
    intro turn ht
    by_cases own : turn.1 = e.task
    · rw [own, told]
      exact fun h => by cases h
    · rw [others _ own]
      rcases List.mem_append.1 ht with ht | ht
      · exact inv.had turn ht
      · rw [List.mem_singleton.1 ht] at own
        exact absurd rfl own
  · intro j
    by_cases own : j = e.task
    · rw [own, Function.update_self, told]
      exact bound
    · -- Whoever has still to come to its effect holds its lock, and keeps its record from others.
      rw [Function.update_of_ne own, others j own]
      refine (inv.line j).congr ⟨rfl, rfl, rfl⟩ fun hold phase hj _ => ?_
      have kept : (v.add e).store.get? v.now (sites j).key
          = v.store.get? v.now (sites j).key := by
        rcases takes.store with ⟨hold', hi⟩ | unchanged
        · refine World.get?_add_of_ne v e _ (fun c hc same => ?_) v.now
          rw [takes.key c hc, Option.some.injEq] at same
          exact inv.key_ne own hi (by rw [hj]; rfl) same.symm
        · rw [unchanged]
      rw [World.reply_eq, World.reply_eq, World.add_now, kept]

/-- A step is quiet or takes its call's turn. -/
theorem event (inv : Linear instances calls s sites v stages) (plain : Plain instances calls sites)
    {e : Event} {stage : Stage} (admits : v.Admits e) (perform : e.action = .perform)
    (step : (sites e.task).Step (stages e.task) e stage) :
    Linear instances calls s sites (v.add e) (Function.update stages e.task stage) := by
  have exclusive := inv.exclusive.event plain.separate admits perform step
  have line := inv.line e.task
  have kinds : Quiet sites v (stages e.task) e stage
        ((machine instances calls s sites stages v.history).2.lookup e.task)
      ∨ Takes instances calls sites (machine instances calls s sites stages v.history) v
          (stages e.task) e stage
          ((machine instances calls s sites stages v.history).2.lookup e.task) := by
    generalize stages e.task = before at line step
    by_cases inside : ∃ hold phase, before = .inside hold phase
    · obtain ⟨hold, phase, rfl⟩ := inside
      exact step_inside plain inv.aligned line admits perform step
    · refine step_outside plain inv.aligned line (fun hold phase h => inside ⟨hold, phase, h⟩)
        admits perform step
  rcases kinds with quiet | takes
  · exact inv.quiet exclusive quiet
  · exact inv.takes admits exclusive takes

end Linear

end Turnstile

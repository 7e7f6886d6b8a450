import Turnstile.Proofs.Lock.Holder
import Turnstile.Session

set_option autoImplicit false

/-! # Calls that mind a lock

A call that issues no command about a key, but for those by which the lock there is acquired and
released, keeps to the lock's protocol (`Call.minds`). The limiter's calls are among them, by what
their own protocol says of them (`Site.minds`). -/

namespace Turnstile

/-! ## The limiter's calls -/

namespace Site

variable {p : Site} {key : String} {start st : Lock.Holder} {stage stage' : Stage} {e : Event}

/-- A call on the limiter that works elsewhere has nothing to do with the lock under a key. -/
theorem Step.move_of_ne (record : p.key ≠ key) (lock : p.lock ≠ key) (later : start.Later st)
    (step : p.Step stage e stage') :
    ∃ st', Lock.Move key st e st' ∧ start.Later st' := by
  have aside : Lock.Aside key e.effect → ∃ st', Lock.Move key st e st' ∧ start.Later st' :=
    fun aside => ⟨st, .aside aside (.inl later.resting), later⟩
  cases step with
  | draw => exact ⟨_, .draw later.resting, Lock.Holder.resting_of_grip (.inr ⟨_, rfl⟩), later.made,
      later.found⟩
  | look | drop | judge | write => exact aside (.inl (by simpa [Command.key?] using record))
  | contend | release => exact aside (.inl (by simpa [Command.key?] using lock))
  | log | count | wait | pause | weigh | handle | time | prepare | allow => exact aside trivial

/-- What a call at a stage knows of its lock. -/
def Grips (p : Site) (start : Lock.Holder) : Stage → Lock.Holder → Prop
  | .trying token _, st => start.Later st ∧ st.grip = .trying token
  | .inside hold .granted, st =>
    ∃ before, start.Later before ∧ st = { before with grip := .granted hold.token p.ttl hold.since }
  | .inside hold _, st =>
    start.Later st ∧ ∃ handle ∈ st.made, handle.key = p.lock ∧ handle.token = tokenText hold.token
  | _, st => start.Later st

theorem grips_seen (later : start.Later st) (reply : Except Failure Json) :
    p.Grips start (seen reply) st := by
  rw [seen]
  split
  · exact later
  · rw [Stage.unseen]
    split <;> exact later

theorem grips_weigh (later : start.Later st) (value : Json) (reading : Except Failure Int) :
    p.Grips start (p.weigh value reading) st := by
  rw [weigh]
  split
  · exact later
  · rw [Stage.unseen]
    split <;> exact later

theorem grips_dropped (later : start.Later st) (reply : Except Failure Json) :
    p.Grips start (dropped reply) st := by
  fun_cases dropped reply <;> exact later

theorem grips_tried {token : Nat} (later : start.Later st) (trying : st.grip = .trying token)
    (time : Int) (reply : Except Failure Json) :
    p.Grips start (tried token time reply) (st.tried token p.ttl time reply) := by
  fun_cases tried token time reply with
  | case1 reply truthy =>
    rw [Lock.Holder.tried, if_pos truthy]
    exact ⟨st, later, rfl⟩
  | case2 reply falsy =>
    rw [Lock.Holder.tried, if_neg falsy]
    exact ⟨later, trying⟩
  | case3 f handled => exact ⟨later, trying⟩
  | case4 f passed => exact later

theorem grips_handled {hold : Hold} (later : start.Later st) (reading : Except Failure Binary64) :
    p.Grips start (handled hold reading) (st.stamped p.lock hold.token p.ttl reading) := by
  have free : ∀ made found, (⟨.free, made, found⟩ : Lock.Holder).Resting := fun _ _ =>
    Lock.Holder.resting_of_grip (.inl rfl)
  cases reading with
  | error f => exact ⟨free _ _, later.made, later.found⟩
  | ok acquired =>
    exact ⟨⟨free _ _, fun handle h => List.mem_cons_of_mem _ (later.made handle h), later.found⟩,
      _, List.mem_cons_self, rfl, rfl⟩

/-- Whatever the call does under its lock, it keeps its handle. -/
theorem Grips.phase {hold : Hold} {phase phase' : Phase}
    (grips : p.Grips start (.inside hold phase) st) (settled : phase ≠ .granted)
    (settled' : phase' ≠ .granted) :
    p.Grips start (.inside hold phase') st := by
  cases phase with
  | granted => exact absurd rfl settled
  | _ =>
    cases phase' with
    | granted => exact absurd rfl settled'
    | _ => exact grips

/-- What a call on the limiter does about its own lock. -/
theorem Step.move (grips : p.Grips start stage st) (step : p.Step stage e stage') :
    ∃ st', Lock.Move p.lock st e st' ∧ p.Grips start stage' st' := by
  have record : p.key ≠ p.lock := attemptsKey_ne_lockKey p.world p.subject
  have away : ∀ c : Command, c.key? = some p.key → Lock.Aside p.lock (.command c) := by
    intro c hc
    exact .inl (by simpa [hc] using record)
  have openly : stage.IsOpen → start.Later st := by
    intro isOpen
    cases stage with
    | idle | weighed limited => exact grips
    | _ => exact isOpen.elim
  cases step with
  | log | count => exact ⟨st, .aside trivial (.inr rfl), grips⟩
  | wait => exact ⟨st, .aside trivial (.inl grips.resting), grips⟩
  | pause => exact ⟨st, .aside trivial (.inl grips.1.resting), grips⟩
  | look => exact ⟨st, .aside (away _ rfl) (.inl grips.resting), grips_seen grips _⟩
  | weigh => exact ⟨st, .aside trivial (.inr rfl), grips_weigh grips _ _⟩
  | drop _ isOpen =>
    have later := openly isOpen
    exact ⟨st, .aside (away _ rfl) (.inl later.resting), grips_dropped later _⟩
  | draw _ isOpen =>
    have later := openly isOpen
    exact ⟨_, .draw later.resting,
      ⟨Lock.Holder.resting_of_grip (.inr ⟨_, rfl⟩), later.made, later.found⟩, rfl⟩
  | contend => exact ⟨_, .contend grips.2, grips_tried grips.1 grips.2 _ _⟩
  | handle =>
    obtain ⟨before, later, rfl⟩ := grips
    exact ⟨_, .stamp rfl, grips_handled later _⟩
  | @time _ _ _ _ _ reading =>
    refine ⟨st, .aside trivial (.inr rfl), grips.phase (by simp) ?_⟩
    cases reading <;> simp [timed]
  | judge =>
    refine ⟨st, .aside (away _ rfl) (.inl grips.1.resting), grips.phase (by simp) ?_⟩
    rw [Site.judge]
    split
    · split <;> simp
    · simp
  | prepare =>
    refine ⟨st, .aside trivial (.inr rfl), grips.phase (by simp) ?_⟩
    fun_cases Site.prepare <;> simp
  | write =>
    refine ⟨st, .aside (away _ rfl) (.inl grips.1.resting), grips.phase (by simp) ?_⟩
    fun_cases kept <;> simp
  | allow => exact ⟨st, .aside trivial (.inr rfl), grips.phase (by simp) (by simp)⟩
  | release =>
    obtain ⟨later, handle, made, same, token⟩ := grips
    refine ⟨st, ?_, later⟩
    rw [← token]
    exact .release later.resting same (.inl made)

/-- What a call knows of its lock when it ends, it knows at rest. -/
theorem Grips.later (grips : p.Grips start stage st)
    (ended : ∀ hold phase, stage ≠ .inside hold phase) : start.Later st := by
  cases stage with
  | inside hold phase => exact absurd rfl (ended hold phase)
  | trying token again => exact grips.1
  | _ => exact grips

/-- A routine of the limiter minds the lock under a key where no record is kept, if it does not end
    under its own lock. -/
theorem minds {α : Type} {r : Routine α} {ends : Except Failure α → Stage → Prop}
    (record : p.key ≠ key) (h : ∀ task, r.Obeys p.protocol task ends .idle)
    (ended : ∀ outcome stage, ends outcome stage → ∀ hold phase, stage ≠ .inside hold phase) :
    Lock.Minds key r := by
  intro task st resting
  by_cases lock : p.lock = key
  · subst lock
    refine Proc.Obeys.mono ?_ ((h task).simulate (Q := Lock.protocol p.lock) (p.Grips st)
      (fun _ _ _ _ => Step.move) (Lock.Holder.Later.refl resting))
    rintro outcome st' ⟨stage, grips, ends⟩
    exact grips.later (ended outcome stage ends)
  · refine Proc.Obeys.mono ?_ ((h task).simulate (Q := Lock.protocol key)
      (fun _ st' => st.Later st') (fun _ _ _ _ => Step.move_of_ne record lock)
      (Lock.Holder.Later.refl resting))
    rintro outcome st' ⟨-, later, -⟩
    exact later

end Site

namespace Lock

variable {key : String} {task : Nat} {st : Holder}

theorem minds_get (k : String) : Minds key (Cache.get k) := by
  refine .then (.ask (e := .command (.get k)) ?_ _ fun reply => .ofExcept reply) fun reply =>
    .ofExcept _
  by_cases same : k = key
  · exact .inr (by rw [same])
  · exact .inl (by simpa [Command.key?] using same)

theorem minds_isLimited (l : Limiter) (world subject : String) :
    Minds key (l.isLimited world subject) := by
  refine .catching ?_ fun f => .then (.log _ _ _) fun _ => .pure _
  refine .then (minds_get _) fun stored => ?_
  refine .then (.ask (e := .clock l.clock) trivial _ fun reading => .ofExcept reading) fun now => ?_
  exact .then (.ofExcept _) fun recent => .pure _

theorem minds_recordFailure (l : Limiter) {world subject : String}
    (record : attemptsKey world subject ≠ key) : Minds key (l.recordFailure world subject) := by
  refine Site.minds (p := ⟨l, world, subject, false, true, false⟩) record
    (fun task => Site.recordFailure_obeys rfl trivial) ?_
  rintro outcome stage ⟨ends, -⟩ hold phase rfl
  cases ends

theorem minds_clear {world subject : String} (record : attemptsKey world subject ≠ key) :
    Minds key (Limiter.clear world subject) := by
  refine Site.minds (p := ⟨⟨{}, .system⟩, world, subject, false, false, true⟩) record
    (fun task => Site.clear_obeys rfl trivial) ?_
  rintro outcome stage ends hold phase rfl
  cases ends

theorem minds_check (l : Limiter) (requestId : String) {world subject : String}
    (plain hashed : Json) (record : attemptsKey world subject ≠ key) :
    Minds key (Guard.check l requestId world subject plain hashed) := by
  have refuse : Minds key (Guard.refuse world requestId) :=
    .then (.log _ _ _) fun _ => .throw _
  refine .then (minds_isLimited l world subject) fun limited => ?_
  cases limited with
  | true => exact refuse
  | false =>
    refine .then (.ofExcept _) fun matched => ?_
    cases matched with
    | true => exact .then (minds_clear record) fun _ => .then (.log _ _ _) fun _ => .pure _
    | false =>
      refine .then (minds_recordFailure l record) fun reached => ?_
      cases reached with
      | true => exact refuse
      | false => exact .then (.log _ _ _) fun _ => .pure _

/-- A handle is kept, which is one that the task made if it is one of the lock. -/
theorem keep_obeys {α : Type} {ends : Except Failure α → Holder → Prop} {name : String}
    {handle : LockHandle} {r : Routine α} (resting : st.Resting)
    (made : handle.key = key → handle ∈ st.made)
    (h : r.Obeys (protocol key) task ends st) :
    (Routine.ask (.operate (.keepHandle name handle)) >>= fun _ => r).Obeys (protocol key) task ends
      st := by
  intro _ _ _
  refine ⟨st, ?_, h⟩
  by_cases same : handle.key = key
  · exact .keep resting (made same)
  · exact .aside same (.inl resting)

/-- What is done with the handle kept under a name. -/
theorem minds_withHandle {name : String} {f : LockHandle → Routine CallResult}
    (h : ∀ (handle : LockHandle) (task : Nat) (st : Holder), st.Resting → handle ∈ st.found →
      (f handle).Obeys (protocol key) task (fun _ st' => st.Later st') st) :
    Minds key (Call.withHandle name f) := by
  intro task st resting _ _ answer
  refine ⟨_, .find resting, ?_⟩
  have resting' : ({ st with found := answer.toList ++ st.found } : Holder).Resting := resting
  have later : st.Later { st with found := answer.toList ++ st.found } :=
    ⟨resting', fun _ h => h, fun _ h => List.mem_append_right _ h⟩
  cases answer with
  | none => exact later
  | some handle =>
    exact (h handle task _ resting' List.mem_cons_self).mono fun _ _ later' => later.trans later'

end Lock

/-! ## Calls -/

namespace Call

mutual

/-- The call leaves what is under a key to the lock there. -/
def Leaves (key : String) : Call → Prop
  | .record _ world subject | .check _ _ world subject _ _ | .clear world subject =>
    attemptsKey world subject ≠ key
  | .cacheSet k _ _ | .cacheRemove k => k ≠ key
  | .holding _ _ _ body _ => AllLeave key body
  | .operate _ => False
  | _ => True

/-- All of the calls leave what is under a key to the lock there. -/
def AllLeave (key : String) : List Call → Prop
  | [] => True
  | call :: rest => call.Leaves key ∧ AllLeave key rest

end

mutual

/-- A call that leaves a key to its lock minds the lock. -/
theorem minds (instances : Instances) (key : String) :
    (call : Call) → call.Leaves key → Lock.Minds key (call.routine instances)
  | .record i world subject, leaves => by
    rw [routine]
    exact (Lock.minds_recordFailure _ leaves).map _
  | .isLimited i world subject, _ => by
    rw [routine]
    exact (Lock.minds_isLimited _ world subject).map _
  | .clear world subject, leaves => by
    rw [routine]
    exact (Lock.minds_clear leaves).map _
  | .check i requestId world subject plain hashed, leaves => by
    rw [routine]
    exact (Lock.minds_check _ requestId plain hashed leaves).map _
  | .cacheGet k, _ => by
    rw [routine]
    exact .then (Lock.minds_get k) fun _ => .pure _
  | .cacheSet k value ttl, leaves => by
    rw [routine]
    split
    · next v _ =>
      have other : (Command.set k (v.write .stored) ttl).key? ≠ some key :=
        fun h => leaves (Option.some.inj h)
      refine .then ?_ fun _ => .pure _
      rw [Cache.set]
      split
      · exact .then (.throw _) fun _ => .then (.command other) fun _ => .pure _
      · exact .then (.command other) fun _ => .pure _
    · exact .throw _
  | .cacheRemove k, leaves => by
    rw [routine]
    refine .then ?_ fun _ => .pure _
    exact .then (.command fun h => leaves (Option.some.inj h)) fun _ => .pure _
  | .acquire name own options, _ => by
    rw [routine]
    intro task st resting
    refine Routine.Obeys.bind _ (Lock.acquire_obeys own options resting) ?_ fun _ _ h => h.1
    rintro handle st' ⟨later, acquired⟩
    obtain ⟨same, made⟩ := acquired handle rfl
    exact Lock.keep_obeys later.resting (fun mine => made (same.symm.trans mine)) later
  | .release name, _ => by
    rw [routine]
    refine Lock.minds_withHandle fun handle task st resting found => ?_
    exact Routine.Obeys.map _ _ (Lock.release_obeys resting fun _ => .inr found) fun _ _ h => h
  | .expired name, _ => by
    rw [routine]
    refine Lock.minds_withHandle fun handle task st resting _ => ?_
    refine Lock.Minds.map _ (.then ?_ fun _ => .pure _) task st resting
    exact .ask (e := .monotonic) trivial _ fun reading => .ofExcept reading
  | .holding name own options body failure, leaves => by
    rw [routine]
    have all := allMind instances key body leaves
    intro task
    refine Lock.Minds.holding fun handle st resting same made => ?_
    refine Lock.keep_obeys resting (fun mine => made (same.symm.trans mine)) ?_
    refine Lock.Minds.then all (fun results => ?_) task st resting
    cases failure with
    | some f => exact .throw f
    | none => exact .pure _
  | .ping, _ => by
    rw [routine]
    refine .map _ (.catching ?_ fun f => .then (.log _ _ _) fun _ => .pure _)
    exact .then (.command (by simp [Command.key?])) fun _ => .pure _
  | .close, _ => by
    rw [routine]
    refine .then ?_ fun _ => .pure _
    exact .then (.command (by simp [Command.key?])) fun _ => .pure _
  | .exposition, _ => by
    rw [routine]
    exact .then (.ask (e := .exposition) trivial _ fun text => .ofExcept text) fun _ => .pure _
  | .wait ms, _ => by
    rw [routine]
    exact .then (.ask (e := .wait ms) trivial _ fun _ => .pure _) fun _ => .pure _
  | .operate operation, leaves => leaves.elim

/-- Calls made one after the other mind the lock when each does. -/
theorem allMind (instances : Instances) (key : String) :
    (calls : List Call) → AllLeave key calls → Lock.Minds key (routines instances calls)
  | [], _ => by
    rw [routines]
    exact .pure _
  | call :: rest, leaves => by
    rw [routines]
    exact .then (minds instances key call leaves.1).observe fun _ =>
      .then (allMind instances key rest leaves.2) fun _ => .pure _

end

end Call

end Turnstile

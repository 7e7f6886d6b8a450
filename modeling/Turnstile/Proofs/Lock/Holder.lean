import Turnstile.Proofs.Limiter.Calls
import Turnstile.Proofs.Lock.Ownership

set_option autoImplicit false

/-! # Whoever acquires a lock

`Lock.Move` lists what a task may do about the lock under a key, and what it then knows of it: the
token that it tries to acquire the lock as, the handles that it made and those that it found under
some name. It goes for all tasks that leave the key to the lock (`Call.Leaves`), whatever else they
do, and the limiter's calls among them (`Site.Step.move`). -/

namespace Turnstile

namespace Lock

/-! ## Holders -/

/-- How far an acquisition of the lock got. -/
inductive Grip where
  | free
  /-- A token was drawn to acquire the lock as. -/
  | trying (token : Nat)
  /-- The lock is granted; the handle is not made yet. -/
  | granted (token : Nat) (ttl since : Int)

/-- What a task knows of the lock under a key. -/
structure Holder where
  grip : Grip
  made : List LockHandle
  found : List LockHandle

namespace Holder

/-- A task that has not done anything yet. -/
def fresh : Holder := ⟨.free, [], []⟩

/-- The task is not on the way from a granted lock to its handle. -/
def Resting (st : Holder) : Prop := ∀ token ttl since, st.grip ≠ .granted token ttl since

/-- The handle is one that the task made or found. -/
def Knows (st : Holder) (handle : LockHandle) : Prop := handle ∈ st.made ∨ handle ∈ st.found

/-- After a try for the lock. -/
def tried (st : Holder) (token : Nat) (ttl time : Int) : Except Failure Json → Holder
  | .ok reply => if reply.truthy then { st with grip := .granted token ttl time } else st
  | .error _ => st

/-- After the monotonic clock was read for the handle. -/
def stamped (st : Holder) (key : String) (token : Nat) (ttl : Int) :
    Except Failure Binary64 → Holder
  | .ok acquired => ⟨.free, ⟨key, tokenText token, ttl, acquired⟩ :: st.made, st.found⟩
  | .error _ => { st with grip := .free }

/-- A later state of a task at rest, in which it has forgotten nothing. -/
structure Later (st st' : Holder) : Prop where
  resting : st'.Resting
  made : ∀ handle ∈ st.made, handle ∈ st'.made
  found : ∀ handle ∈ st.found, handle ∈ st'.found

variable {st st' st'' : Holder}

theorem Later.refl (resting : st.Resting) : st.Later st :=
  ⟨resting, fun _ h => h, fun _ h => h⟩

theorem Later.trans (first : st.Later st') (second : st'.Later st'') : st.Later st'' :=
  ⟨second.resting, fun handle h => second.made handle (first.made handle h),
    fun handle h => second.found handle (first.found handle h)⟩

theorem resting_of_grip (h : st.grip = .free ∨ ∃ token, st.grip = .trying token) : st.Resting := by
  rintro token ttl since granted
  rcases h with h | ⟨_, h⟩ <;> rw [h] at granted <;> cases granted

end Holder

/-! ## Moves -/

/-- The effect has nothing to do with the lock under a key, but that it may read what is there. -/
def Aside (key : String) : Effect → Prop
  | .command c => c.key? ≠ some key ∨ c = .get key
  | .operate (.keepHandle _ handle) => handle.key ≠ key
  | .operate _ | .freshToken | .handle _ => False
  | _ => True

/-- What a task may do about the lock under a key. -/
inductive Move (key : String) : Holder → Event → Holder → Prop where
  | aside {st : Holder} {e : Event} (aside : Aside key e.effect)
      (quick : st.Resting ∨ e.effect.waits = false) : Move key st e st
  | find {st : Holder} (resting : st.Resting) {time : Int} {task : Nat} {name : String}
      {action : FaultAction} {answer : Option LockHandle} :
      Move key st ⟨time, task, .handle name, action, answer⟩
        { st with found := answer.toList ++ st.found }
  | draw {st : Holder} (resting : st.Resting) {time : Int} {task token : Nat}
      {action : FaultAction} :
      Move key st ⟨time, task, .freshToken, action, token⟩ { st with grip := .trying token }
  | contend {st : Holder} {token : Nat} (trying : st.grip = .trying token) {time ttl : Int}
      {task : Nat} {action : FaultAction} {reply : Except Failure Json} :
      Move key st ⟨time, task, .command (.setIfAbsent key (tokenText token) ttl), action, reply⟩
        (st.tried token ttl time reply)
  | stamp {st : Holder} {token : Nat} {ttl since : Int}
      (granted : st.grip = .granted token ttl since) {time : Int} {task : Nat}
      {action : FaultAction} {reading : Except Failure Binary64} :
      Move key st ⟨time, task, .monotonic, action, reading⟩ (st.stamped key token ttl reading)
  | keep {st : Holder} (resting : st.Resting) {handle : LockHandle} (made : handle ∈ st.made)
      {time : Int} {task : Nat} {name : String} {action : FaultAction} {answer : Unit} :
      Move key st ⟨time, task, .operate (.keepHandle name handle), action, answer⟩ st
  | release {st : Holder} (resting : st.Resting) {handle : LockHandle} (same : handle.key = key)
      (known : st.Knows handle) {time : Int} {task : Nat} {action : FaultAction}
      {reply : Except Failure Json} :
      Move key st ⟨time, task, .command (.deleteIfEqual key handle.token), action, reply⟩ st

/-- The protocol of whoever may acquire the lock under a key. -/
def protocol (key : String) : Protocol Holder where
  step := Move key
  own := by
    intro st e st' move
    cases move with
    | aside aside =>
      obtain ⟨time, task, effect, action, answer⟩ := e
      cases effect with
      | operate operation =>
        cases operation with
        | keepHandle => trivial
        | _ => exact aside.elim
      | _ => trivial
    | _ => trivial

/-! ## Routines that mind the lock -/

/-- Wherever a task rests, the routine obeys the protocol, and forgets nothing. -/
def Minds {α : Type} (key : String) (r : Routine α) : Prop :=
  ∀ (task : Nat) (st : Holder), st.Resting →
    r.Obeys (protocol key) task (fun _ st' => st.Later st') st

section

variable {α β : Type} {key : String} {task : Nat} {st : Holder}

theorem Minds.pure (a : α) : Minds key (Pure.pure a : Routine α) := fun _ _ resting => .refl resting

theorem Minds.throw (f : Failure) : Minds key (throw f : Routine α) := fun _ _ resting =>
  .refl resting

theorem Minds.ofExcept (x : Except Failure α) : Minds key (Routine.ofExcept x) := fun _ _ resting =>
  .refl resting

/-- An effect that has nothing to do with the lock. -/
theorem Minds.ask {e : Effect} (aside : Aside key e) (next : e.Answer → Proc (Except Failure α))
    (rest : ∀ answer, Minds key (ExceptT.mk (next answer))) :
    Minds key (ExceptT.mk (.perform e next)) :=
  fun task st resting _ _ answer => ⟨st, .aside aside (.inl resting), rest answer task st resting⟩

theorem Minds.then {r : Routine α} {f : α → Routine β} (first : Minds key r)
    (ok : ∀ a, Minds key (f a)) : Minds key (r >>= f) := fun task st resting =>
  Routine.Obeys.bind _ (first task st resting)
    (fun a st' later => (ok a task st' later.resting).mono fun _ _ later' => later.trans later')
    fun _ _ later => later

theorem Minds.map {r : Routine α} (f : α → β) (h : Minds key r) : Minds key (f <$> r) :=
  fun task st resting => Routine.Obeys.map _ f (h task st resting) fun _ _ later => later

theorem Minds.observe {r : Routine α} (h : Minds key r) : Minds key (Routine.observe r) :=
  fun task st resting => Proc.Obeys.bind _ (h task st resting) fun _ _ later => later

theorem Minds.catching {r : Routine α} {handled : Failure → Bool} {handler : Failure → Routine α}
    (first : Minds key r) (caught : ∀ f, Minds key (handler f)) :
    Minds key (r.catching handled handler) := by
  refine .then first.observe fun outcome => ?_
  cases outcome with
  | ok a => exact .pure a
  | error f =>
    show Minds key (if handled f then handler f else MonadExcept.throw f)
    split
    · exact caught f
    · exact .throw f

theorem Minds.log (level : LogLevel) (logger : Logger) (message : String) :
    Minds key (Routine.log level logger message) :=
  .ask (e := .log _) trivial _ fun a => .pure a

theorem Minds.command {c : Command} (other : c.key? ≠ some key) : Minds key (Routine.command c) :=
  .ask (e := .command c) (.inl other) _ fun reply => .ofExcept reply

/-! ## To acquire -/

/-- An acquisition ends with a handle of its lock, which the task has made. -/
def Acquired (key own : String) (st : Holder) (outcome : Except Failure LockHandle) (st' : Holder) :
    Prop :=
  st.Later st' ∧ ∀ handle, outcome = .ok handle → handle.key = own ∧ (own = key → handle ∈ st'.made)

/-- A try for a lock, be it the one under the key or another. -/
theorem Move.try {own : String} {token : Nat} (trying : st.grip = .trying token) {time ttl : Int}
    {action : FaultAction} {reply : Except Failure Json} :
    Move key st ⟨time, task, .command (.setIfAbsent own (tokenText token) ttl), action, reply⟩
      (if own = key then st.tried token ttl time reply else st) := by
  by_cases mine : own = key
  · subst mine
    rw [if_pos rfl]
    exact .contend trying
  · rw [if_neg mine]
    exact .aside (.inl (by simpa [Command.key?] using mine))
      (.inl (Holder.resting_of_grip (.inr ⟨token, trying⟩)))

/-- A handle is made when its lock was granted. -/
theorem handle_obeys {own : String} {token : Nat} {ttl time : Int} (resting : st.Resting) :
    (do return { key := own, token := tokenText token, ttl, acquiredAt := ← Routine.monotonic } :
      Routine LockHandle).Obeys (protocol key) task (Acquired key own st)
      (if own = key then { st with grip := .granted token ttl time } else st) := by
  intro _ _ reading
  by_cases mine : own = key
  · subst mine
    rw [if_pos rfl]
    refine ⟨_, .stamp rfl, ?_⟩
    have free : ∀ made found, (⟨.free, made, found⟩ : Holder).Resting := fun _ _ =>
      Holder.resting_of_grip (.inl rfl)
    cases reading with
    | error f => exact ⟨⟨free _ _, fun _ h => h, fun _ h => h⟩, fun _ h => nomatch h⟩
    | ok acquired =>
      refine ⟨⟨free _ _, fun _ h => List.mem_cons_of_mem _ h, fun _ h => h⟩, ?_⟩
      rintro _ ⟨⟩
      exact ⟨rfl, fun _ => List.mem_cons_self⟩
  · rw [if_neg mine]
    refine ⟨st, .aside trivial (.inl resting), ?_⟩
    cases reading with
    | error f => exact ⟨.refl resting, fun _ h => nomatch h⟩
    | ok acquired =>
      refine ⟨.refl resting, ?_⟩
      rintro _ ⟨⟩
      exact ⟨rfl, fun h => absurd h mine⟩

theorem tries_obeys {own : String} {o : LockOptions} {token : Nat} (left made : Nat)
    (cause : Option (ErrorClass × String)) (trying : st.grip = .trying token) :
    (tries own (tokenText token) o left made cause).Obeys (protocol key) task (Acquired key own st)
      st := by
  have resting : st.Resting := Holder.resting_of_grip (.inr ⟨token, trying⟩)
  have failed : ∀ f, Acquired key own st (.error f) st := fun f =>
    ⟨.refl resting, fun _ h => nomatch h⟩
  have log : ∀ {level message} {r : Routine LockHandle},
      r.Obeys (protocol key) task (Acquired key own st) st →
      (Routine.log level .cache message >>= fun _ => r).Obeys (protocol key) task
        (Acquired key own st) st :=
    fun h _ _ _ => ⟨st, .aside trivial (.inl resting), h⟩
  induction left generalizing made cause with
  | zero =>
    rw [tries]
    exact log (failed _)
  | succ left ih =>
    rw [tries]
    refine Routine.Obeys.first (fun _ st' => st = st') ?_ (fun _ => rfl) ?_ ?_
    · intro _
      rw [pause]
      split
      · exact fun _ _ _ => ⟨st, .aside trivial (.inl resting), rfl⟩
      · rfl
    · rintro _ rfl
      refine Routine.Obeys.observe (fun reply st' => ∃ time,
        (if own = key then st.tried token o.ttl time reply else st) = st')
        (fun time _ reply => ⟨_, .try trying, time, rfl⟩) ?_
      rintro (f | reply) _ ⟨time, rfl⟩
      · -- A try that failed has changed nothing.
        rw [Holder.tried, ite_self]
        show Routine.Obeys _ _ _ (if f.isStoreError then _ else _) st
        split
        · exact log (ih _ _)
        · exact failed f
      · by_cases granted : reply.truthy = true
        · simp only [Holder.tried, granted, if_true]
          exact handle_obeys resting
        · rw [Holder.tried, if_neg granted, ite_self]
          simp only [granted]
          exact ih _ _
    · rintro f _ rfl
      exact failed f

theorem acquire_obeys (own : String) (o : LockOptions) (resting : st.Resting) :
    (acquire own o).Obeys (protocol key) task (Acquired key own st) st :=
  fun _ _ token => ⟨{ st with grip := .trying token }, .draw resting,
    (tries_obeys _ _ _ rfl).mono fun _ _ h => ⟨⟨h.1.resting, h.1.made, h.1.found⟩, h.2⟩⟩

/-! ## To release -/

theorem release_obeys {handle : LockHandle} (resting : st.Resting)
    (known : handle.key = key → st.Knows handle) :
    (release handle).Obeys (protocol key) task (fun _ st' => st.Later st') st := by
  refine Routine.Obeys.catching (fun _ st' => st = st') ?_ ?_ ?_ ?_
  · refine Routine.Obeys.bind (fun _ st' => st = st') (fun _ _ reply => ⟨st, ?_, rfl⟩) ?_ ?_
    · by_cases same : handle.key = key
      · subst same
        exact .release resting rfl (known rfl)
      · exact .aside (.inl (by simpa [Command.key?] using same)) (.inl resting)
    · exact fun _ _ h => h
    · exact fun _ _ h => h
  · rintro _ _ rfl
    exact .refl resting
  · rintro f _ rfl _
    exact fun _ _ _ => ⟨st, .aside trivial (.inl resting), .refl resting⟩
  · rintro f _ rfl _
    exact .refl resting

/-- To hold a lock for what forgets no handle. -/
theorem Minds.holding {own : String} {o : LockOptions} {body : LockHandle → Routine α}
    (h : ∀ (handle : LockHandle) (st : Holder), st.Resting → handle.key = own →
      (own = key → handle ∈ st.made) →
      (body handle).Obeys (protocol key) task (fun _ st' => st.Later st') st) :
    ∀ st : Holder, st.Resting →
      (Lock.holding own o body).Obeys (protocol key) task (fun _ st' => st.Later st') st := by
  intro st resting
  refine Routine.Obeys.bind _ (acquire_obeys own o resting) ?_ fun _ _ h => h.1
  rintro handle st' ⟨later, acquired⟩
  obtain ⟨same, made⟩ := acquired handle rfl
  refine Routine.Obeys.ending _ (h handle st' later.resting same made) ?_
  intro outcome st'' later'
  refine (release_obeys later'.resting fun mine => .inl ?_).mono fun _ _ later'' =>
    later.trans (later'.trans later'')
  exact later'.made handle (made (same.symm.trans mine))

end

end Lock

end Turnstile

import Turnstile.Proofs.Limiter.Regime
import Turnstile.Proofs.Lock.Calls
import Turnstile.Proofs.Text.Digits

set_option autoImplicit false

/-! # Fair tasks

A task is `Fair` about a lock when it puts a token there only to acquire the lock, as the token that
it drew last, and no longer than until it is granted. What else it does about the key does not
matter: it may write there, or delete.

Whoever minds a lock is fair about it (`Lock.Minds.fairly`), and so are the limiter's calls about
every key (`Call.fairly_of_site`), as the text of a record is no token (`record_ne_tokenText`). To
hold a lock for something fair is fair (`Lock.fairly_holding`). -/

namespace Turnstile

/-- The text of a record is no token. -/
theorem record_ne_tokenText (ts : List Int) (n : Nat) :
    (Window.record ts).write .stored ≠ tokenText n := by
  intro same
  have brace : '\x7b' ∈ tokenDigits n := by
    have chars := congrArg String.toList same
    rw [Json.write, tokenText, String.toList_ofList, String.toList_ofList,
      Json.writeValue_record] at chars
    rw [← chars]
    exact List.mem_cons_self
  obtain ⟨k, hk, digit⟩ := exists_digitChar_of_mem_tokenDigits brace
  have none : ∀ k < 16, '\x7b' ≠ Nat.digitChar k := by decide
  exact none k hk digit

/-- The token that is drawn. -/
def Event.draws? : Event → Option Nat
  | ⟨_, _, .freshToken, _, token⟩ => some token
  | _ => none

namespace Lock

/-! ## Fair tasks -/

/-- The command may put a token under a key. -/
def Puts (key : String) (token : Nat) : Command → Prop
  | .set k value _ | .setIfAbsent k value _ => k = key ∧ value = tokenText token
  | _ => False

/-- What a task may do that is fair about the lock under a key. Its stage is the token that it tries
    to acquire the lock as. -/
inductive Fair (key : String) : Option Nat → Event → Option Nat → Prop where
  | draw {st : Option Nat} {time : Int} {task token : Nat} {action : FaultAction} :
      Fair key st ⟨time, task, .freshToken, action, token⟩ (some token)
  | contend {token : Nat} {ttl : Int} {e : Event}
      (effect : e.effect = .command (.setIfAbsent key (tokenText token) ttl)) {st : Option Nat}
      (after : st = if (e.grant? key).isSome then none else some token) :
      Fair key (some token) e st
  | other {st : Option Nat} {e : Event} (own : e.effect.own)
      (apart : ∀ c, e.effect = .command c → ∀ token, ¬Puts key token c) : Fair key st e st

/-- The protocol of tasks that are fair about the lock under a key. -/
def fair (key : String) : Protocol (Option Nat) where
  step := Fair key
  own := by
    intro st e st' step
    cases step with
    | draw => trivial
    | contend effect =>
      rw [effect]
      trivial
    | other own => exact own

/-- The routine is fair about the lock under a key, whatever token its task has drawn before. -/
def Fairly {α : Type} (key : String) (r : Routine α) : Prop :=
  ∀ (task : Nat) (st : Option Nat), r.Obeys (fair key) task (fun _ _ => True) st

/-- A command that is not about the key puts nothing there. -/
theorem not_puts_of_ne {key : String} {c : Command} (other : c.key? ≠ some key) (token : Nat) :
    ¬Puts key token c := by
  cases c with
  | set k value ttl => exact fun puts => other (congrArg some puts.1)
  | setIfAbsent k value ttl => exact fun puts => other (congrArg some puts.1)
  | _ => exact id

section

variable {key : String} {e : Event}

/-- What has to do with no command is fair. -/
theorem Fair.quiet {st : Option Nat} (own : e.effect.own) (quiet : ∀ c, e.effect ≠ .command c) :
    Fair key st e st :=
  .other own fun c effect => absurd effect (quiet c)

/-- A task tries for the lock as no token but its stage. -/
def Holder.Draws (st : Holder) (drawn : Option Nat) : Prop :=
  ∀ token, st.grip = .trying token → drawn = some token

/-- Whatever is done about a lock is fair. -/
theorem Move.fair {st st' : Holder} {drawn : Option Nat} (draws : st.Draws drawn)
    (move : Move key st e st') : ∃ drawn', Fair key drawn e drawn' ∧ st'.Draws drawn' := by
  have own := (protocol key).own _ _ _ move
  cases move with
  | aside aside =>
    refine ⟨drawn, .other own fun c effect token => ?_, draws⟩
    rw [effect] at aside
    rcases aside with other | rfl
    · exact not_puts_of_ne other token
    · exact id
  | draw =>
    refine ⟨_, .draw, ?_⟩
    rintro _ ⟨⟩
    rfl
  | @contend token trying time ttl task action reply =>
    obtain rfl := draws token trying
    refine ⟨_, .contend rfl rfl, ?_⟩
    intro other trying'
    cases reply with
    | error f => exact (if_neg (by simp [Event.grant?])).trans (draws other trying')
    | ok reply =>
      by_cases truthy : reply.truthy = true
      · simp [Holder.tried, truthy] at trying'
      · rw [Holder.tried, if_neg truthy] at trying'
        exact (if_neg (by simp [Event.grant?, truthy])).trans (draws other trying')
  | stamp granted =>
    refine ⟨drawn, .quiet own (by simp), ?_⟩
    rename_i reading
    intro token trying
    cases reading <;> cases trying
  | find => exact ⟨drawn, .quiet own (by simp), draws⟩
  | keep => exact ⟨drawn, .quiet own (by simp), draws⟩
  | release =>
    refine ⟨drawn, .other own ?_, draws⟩
    rintro _ ⟨⟩ token
    exact id

/-- Whoever minds a lock is fair about it. -/
theorem Minds.fairly {α : Type} {r : Routine α} (minds : Minds key r) : Fairly key r := by
  intro task drawn
  have resting : Holder.fresh.Resting := Holder.resting_of_grip (.inl rfl)
  have draws : Holder.fresh.Draws drawn := fun _ trying => nomatch trying
  refine Proc.Obeys.mono (fun _ _ _ => trivial) ((minds task .fresh resting).simulate
    (Q := Lock.fair key) Holder.Draws (fun _ _ _ _ => Move.fair) draws)

end

end Lock

namespace Site

variable {p : Site} {key : String} {e : Event} {stage stage' : Stage}

/-- A call tries for the lock under a key as no token but its stage. -/
def Draws (p : Site) (key : String) (stage : Stage) (drawn : Option Nat) : Prop :=
  ∀ token again, stage = .trying token again → p.lock = key → drawn = some token

theorem Draws.of_ne {drawn : Option Nat} (idle : ∀ token again, stage ≠ .trying token again) :
    p.Draws key stage drawn :=
  fun token again trying => absurd trying (idle token again)

/-- What a call on the limiter does is fair about the lock under any key. -/
theorem Step.fair {drawn : Option Nat} (draws : p.Draws key stage drawn)
    (step : p.Step stage e stage') :
    ∃ drawn', Lock.Fair key drawn e drawn' ∧ p.Draws key stage' drawn' := by
  have own := p.protocol.own _ _ _ step
  cases step with
  | log | count | pause => exact ⟨drawn, .quiet own (by simp), draws⟩
  | wait => exact ⟨drawn, .quiet own (by simp), .of_ne (by simp)⟩
  | look =>
    refine ⟨drawn, .other own ?_, .of_ne fun token again => ?_⟩
    · rintro _ ⟨⟩ token
      exact id
    · rw [seen]
      split
      · simp
      · rw [Stage.unseen]
        split <;> simp
  | weigh =>
    refine ⟨drawn, .quiet own (by simp), .of_ne fun token again => ?_⟩
    rw [Site.weigh]
    split
    · simp
    · rw [Stage.unseen]
      split <;> simp
  | @drop stage may isOpen time task action reply =>
    refine ⟨drawn, .other own ?_, .of_ne fun token again => ?_⟩
    · rintro _ ⟨⟩ token
      exact id
    · fun_cases Site.dropped reply <;> simp
  | draw =>
    refine ⟨_, .draw, ?_⟩
    rintro token again ⟨⟩ -
    rfl
  | @contend token again time task action reply =>
    by_cases mine : p.lock = key
    · obtain rfl := draws token again rfl mine
      subst mine
      refine ⟨_, .contend rfl rfl, ?_⟩
      rintro other again' trying' -
      fun_cases Site.tried token time reply with
      | case1 reply truthy => simp [tried, truthy] at trying'
      | case2 reply falsy =>
        rw [tried, if_neg falsy] at trying'
        cases trying'
        exact if_neg (by simp [Event.grant?, falsy])
      | case3 f handled =>
        rw [tried, if_pos handled] at trying'
        cases trying'
        rfl
      | case4 f passed =>
        rw [tried, if_neg passed] at trying'
        cases trying'
    · -- A try for another lock is no business of this one.
      refine ⟨drawn, .other own ?_, fun _ _ _ same => absurd same mine⟩
      rintro _ ⟨⟩ token puts
      exact mine puts.1
  | handle =>
    refine ⟨drawn, .quiet own (by simp), .of_ne fun token again => ?_⟩
    rename_i reading
    cases reading <;> simp [handled]
  | time | prepare | allow => exact ⟨drawn, .quiet own (by simp), .of_ne (by simp)⟩
  | judge | release =>
    refine ⟨drawn, .other own ?_, .of_ne (by simp)⟩
    rintro _ ⟨⟩ token
    exact id
  | @write hold timestamps =>
    refine ⟨drawn, .other own ?_, .of_ne (by simp)⟩
    rintro _ ⟨⟩ token puts
    exact record_ne_tokenText timestamps token puts.2

end Site

/-- The limiter's calls are fair about the lock under any key. -/
theorem Call.fairly_of_site {instances : Instances} {call : Call} {p : Site}
    (site : call.site? instances = some p) (key : String) :
    Lock.Fairly key (call.routine instances) := by
  intro task drawn
  have draws : p.Draws key .idle drawn := .of_ne (by simp)
  exact Proc.Obeys.mono (fun _ _ _ => trivial) ((Call.obeys site task).simulate
    (Q := Lock.fair key) (p.Draws key) (fun _ _ _ _ => Site.Step.fair) draws)

namespace Lock

section

variable {α β : Type} {key : String}

theorem Fairly.bind {r : Routine α} {f : α → Routine β} (first : Fairly key r)
    (next : ∀ a, Fairly key (f a)) : Fairly key (r >>= f) := fun task st =>
  Routine.Obeys.bind _ (first task st) (fun a st' _ => next a task st') fun _ _ _ => trivial

theorem Fairly.ending {r : Routine α} {last : Routine β} (first : Fairly key r)
    (after : Fairly key last) : Fairly key (r.ending last) := fun task st =>
  Routine.Obeys.ending _ (first task st) fun _ st' _ => (after task st').mono fun _ _ _ => trivial

theorem fairly_acquire (own : String) (o : LockOptions) : Fairly key (acquire own o) :=
  Minds.fairly fun _ _ resting => (acquire_obeys own o resting).mono fun _ _ ends => ends.1

theorem fairly_release (handle : LockHandle) : Fairly key (release handle) := by
  intro task st
  refine Routine.Obeys.catching (fun _ _ => True) ?_ (fun _ _ _ => trivial) ?_ fun _ _ _ _ => trivial
  · refine Routine.Obeys.bind (fun _ _ => True) (fun _ _ _ => ⟨st, ?_, trivial⟩)
      (fun _ _ _ => trivial) fun _ _ _ => trivial
    refine .other trivial ?_
    rintro _ ⟨⟩ token
    exact id
  · exact fun f st' _ _ _ _ _ => ⟨st', .quiet trivial (by simp), trivial⟩

/-- To hold a lock for something fair is fair. -/
theorem fairly_holding {own : String} {o : LockOptions} {body : LockHandle → Routine α}
    (fairly : ∀ handle, Fairly key (body handle)) : Fairly key (holding own o body) :=
  .bind (fairly_acquire own o) fun handle => .ending (fairly handle) (fairly_release handle)

end

end Lock

end Turnstile

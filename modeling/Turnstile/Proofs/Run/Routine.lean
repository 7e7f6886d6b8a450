import Turnstile.Proofs.Run.Protocol

set_option autoImplicit false

/-! # Routines that obey

A routine obeys a protocol when its process does. What is composed of routines obeys when its parts
do, each from where the one before ends; `mid` says how a part ends. -/

namespace Turnstile

namespace Routine

/-- The process of a routine obeys a protocol; `ends` tells of the result or failure. -/
def Obeys {α S : Type} (P : Protocol S) (task : Nat) (ends : Except Failure α → S → Prop)
    (r : Routine α) (stage : S) : Prop :=
  Proc.Obeys P task ends r.run stage

variable {α β S : Type} {P : Protocol S} {task : Nat} {stage : S}

theorem Obeys.mono {ends ends' : Except Failure α → S → Prop}
    (h : ∀ outcome stage, ends outcome stage → ends' outcome stage) {r : Routine α}
    (hr : r.Obeys P task ends stage) : r.Obeys P task ends' stage :=
  Proc.Obeys.mono h hr

/-! ## Without effects -/

theorem obeys_pure {ends : Except Failure α → S → Prop} {a : α} :
    (pure a : Routine α).Obeys P task ends stage ↔ ends (.ok a) stage := Iff.rfl

theorem obeys_throw {ends : Except Failure α → S → Prop} {f : Failure} :
    (throw f : Routine α).Obeys P task ends stage ↔ ends (.error f) stage := Iff.rfl

theorem obeys_ofExcept {ends : Except Failure α → S → Prop} {x : Except Failure α} :
    (ofExcept x).Obeys P task ends stage ↔ ends x stage := Iff.rfl

/-! ## Composition -/

theorem Obeys.bind (mid : Except Failure α → S → Prop) {ends : Except Failure β → S → Prop}
    {r : Routine α} {f : α → Routine β} (first : r.Obeys P task mid stage)
    (ok : ∀ a stage, mid (.ok a) stage → (f a).Obeys P task ends stage)
    (error : ∀ e stage, mid (.error e) stage → ends (.error e) stage) :
    (r >>= f).Obeys P task ends stage := by
  refine Proc.Obeys.bind mid first fun outcome stage' h => ?_
  cases outcome with
  | ok a => exact ok a stage' h
  | error e => exact error e stage' h

theorem obeys_ofExcept_bind {ends : Except Failure β → S → Prop} {x : Except Failure α}
    {f : α → Routine β} (ok : ∀ a, x = .ok a → (f a).Obeys P task ends stage)
    (error : ∀ e, x = .error e → ends (.error e) stage) :
    (ofExcept x >>= f).Obeys P task ends stage := by
  cases x with
  | ok a => exact ok a rfl
  | error e => exact error e rfl

/-- Something may be done first or not. -/
theorem Obeys.first (mid : Except Failure Unit → S → Prop) {ends : Except Failure α → S → Prop}
    {c : Prop} [Decidable c] {r : Routine Unit} {f : Unit → Routine α}
    (first : c → r.Obeys P task mid stage) (skipped : ¬c → mid (.ok ()) stage)
    (ok : ∀ stage, mid (.ok ()) stage → (f ()).Obeys P task ends stage)
    (error : ∀ e stage, mid (.error e) stage → ends (.error e) stage) :
    (if c then r >>= f else f ()).Obeys P task ends stage := by
  split
  · next hc => exact Obeys.bind mid (first hc) (fun _ => ok) error
  · next hc => exact ok stage (skipped hc)

theorem Obeys.map (mid : Except Failure α → S → Prop) {r : Routine α} (g : α → β)
    {ends : Except Failure β → S → Prop} (hr : r.Obeys P task mid stage)
    (h : ∀ outcome stage, mid outcome stage → ends (outcome.map g) stage) :
    (g <$> r).Obeys P task ends stage := by
  refine Proc.Obeys.bind mid hr fun outcome stage' hm => ?_
  cases outcome with
  | ok a => exact h _ _ hm
  | error e => exact h _ _ hm

theorem Obeys.observe (mid : Except Failure α → S → Prop) {ends : Except Failure β → S → Prop}
    {r : Routine α} {f : Except Failure α → Routine β} (first : r.Obeys P task mid stage)
    (next : ∀ outcome stage, mid outcome stage → (f outcome).Obeys P task ends stage) :
    (Routine.observe r >>= f).Obeys P task ends stage := by
  refine Proc.Obeys.bind (fun x st => ∃ outcome, x = .ok outcome ∧ mid outcome st) ?_ ?_
  · exact Proc.Obeys.bind mid first fun outcome stage' h => ⟨outcome, rfl, h⟩
  · rintro _ stage' ⟨outcome, rfl, h⟩
    exact next outcome stage' h

theorem Obeys.catching (mid : Except Failure α → S → Prop) {ends : Except Failure α → S → Prop}
    {r : Routine α} {handled : Failure → Bool} {handler : Failure → Routine α}
    (first : r.Obeys P task mid stage)
    (ok : ∀ a stage, mid (.ok a) stage → ends (.ok a) stage)
    (caught : ∀ f stage, mid (.error f) stage → handled f → (handler f).Obeys P task ends stage)
    (passed : ∀ f stage, mid (.error f) stage → handled f = false → ends (.error f) stage) :
    (r.catching handled handler).Obeys P task ends stage := by
  refine Obeys.observe mid first fun outcome stage' h => ?_
  cases outcome with
  | ok a => exact ok a stage' h
  | error f =>
    by_cases hf : handled f = true
    · simpa only [hf, if_true] using caught f stage' h hf
    · simp only [hf]
      exact passed f stage' h (by simpa using hf)

theorem Obeys.ending (mid : Except Failure α → S → Prop) {ends : Except Failure α → S → Prop}
    {r : Routine α} {last : Routine β}
    (first : r.Obeys P task mid stage)
    (after : ∀ outcome stage, mid outcome stage → last.Obeys P task
      (fun x stage => ends (x.bind fun _ => outcome) stage) stage) :
    (r.ending last).Obeys P task ends stage := by
  refine Obeys.observe mid first fun outcome stage' h => ?_
  refine Obeys.bind _ (after outcome stage' h) (fun b st hb => ?_) (fun f st hf => hf)
  cases outcome with
  | ok a => exact hb
  | error f => exact hb

/-! ## Running alone -/

/-- Running one routine and then the next is running both in turn, unless the first fails. -/
theorem run_bind (r : Routine α) (f : α → Routine β) (task : Nat) (s : System) :
    (r >>= f).run.run task s = match r.run.run task s with
      | (s', .ok a) => (f a).run.run task s'
      | (s', .error e) => (s', .error e) := by
  refine (Proc.run_bind task r.run _ s).trans ?_
  cases r.run.run task s with
  | mk s' outcome => cases outcome <;> rfl

theorem run_map (f : α → β) (r : Routine α) (task : Nat) (s : System) :
    (f <$> r).run.run task s = ((r.run.run task s).1, (r.run.run task s).2.map f) := by
  refine (Proc.run_bind task r.run _ s).trans ?_
  cases r.run.run task s with
  | mk s' outcome => cases outcome <;> rfl

/-- Logging a line takes no time. -/
theorem run_log (level : LogLevel) (logger : Logger) (message : String) (task : Nat) (s : System) :
    (log level logger message).run.run task s
      = ({ s with logs := s.logs ++ [⟨level, logger, message⟩] }, .ok ()) := by
  have still : s.wait 0 = s := by simp [System.wait]
  have logged : (log level logger message).run.run task s
      = ({ s.wait 0 with logs := (s.wait 0).logs ++ [⟨level, logger, message⟩] }, .ok ()) := rfl
  rw [logged, still]

/-- Counting an outcome takes no time. -/
theorem run_count (outcome : AttemptOutcome) (task : Nat) (s : System) :
    (count outcome).run.run task s
      = ({ s with metrics := s.metrics.countOutcome outcome.name }, .ok ()) := by
  have still : s.wait 0 = s := by simp [System.wait]
  have counted : (count outcome).run.run task s
      = ({ s.wait 0 with metrics := (s.wait 0).metrics.countOutcome outcome.name }, .ok ()) := rfl
  rw [counted, still]

/-- Reading the exposition takes no time either. -/
theorem run_exposition (task : Nat) (s : System) :
    exposition.run.run task s = (s, s.monotonic.map s.metrics.exposition) := by
  have still : s.wait 0 = s := by simp [System.wait]
  have read : exposition.run.run task s
      = (s.wait 0, (s.wait 0).monotonic.map (s.wait 0).metrics.exposition) := rfl
  rw [read, still]

/-- Where no fault waits, nothing comes in the way of a command. -/
theorem issue_command (c : Command) (task : Nat) {s : System} (noFault : s.faults = []) :
    (Effect.command c).issue task s = { system := s } := by
  obtain ⟨_, _, _, faults, _, _, _, _, _, _⟩ := s
  cases noFault
  rfl

/-- Where no fault waits, a command takes effect at once. -/
theorem run_command (c : Command) (task : Nat) {s : System} (noFault : s.faults = []) :
    (command c).run.run task s = s.execute task .perform c := by
  have still : s.wait 0 = s := by simp [System.wait]
  have ran : (command c).run.run task s
      = Effect.perform task ((Effect.command c).issue task s).action
        (((Effect.command c).issue task s).system.wait ((Effect.command c).issue task s).delay)
        (.command c) := rfl
  rw [ran, issue_command c task noFault]
  show (s.wait 0).execute task .perform c = _
  rw [still]

/-- What a routine comes to is observed as a result. -/
theorem run_observe (r : Routine α) (task : Nat) (s : System) :
    (observe r).run.run task s = ((r.run.run task s).1, .ok (r.run.run task s).2) := by
  have bound : (observe r).run = r.run.bind fun outcome => .done (.ok outcome) := rfl
  rw [bound, Proc.run_bind]
  rfl

/-- A handler has nothing to do with a routine that does not fail. -/
theorem run_catching_of_ok {r : Routine α} (handled : Failure → Bool)
    (handler : Failure → Routine α) {task : Nat} {s : System} {a : α}
    (ends : (r.run.run task s).2 = .ok a) :
    (r.catching handled handler).run.run task s = ((r.run.run task s).1, .ok a) := by
  rw [catching, run_bind, run_observe, ends]
  rfl

/-- A handler goes on where a routine has failed. -/
theorem run_catching_of_error {r : Routine α} {handled : Failure → Bool}
    {handler : Failure → Routine α} {task : Nat} {s s' : System} {f : Failure}
    (ends : r.run.run task s = (s', .error f)) (caught : handled f) :
    (r.catching handled handler).run.run task s = (handler f).run.run task s' := by
  rw [catching, run_bind, run_observe, ends]
  simp only [caught, if_true]

/-- A handler leaves alone a failure that it is not for. -/
theorem run_catching_of_passed {r : Routine α} {handled : Failure → Bool}
    {handler : Failure → Routine α} {task : Nat} {s s' : System} {f : Failure}
    (ends : r.run.run task s = (s', .error f)) (passed : handled f = false) :
    (r.catching handled handler).run.run task s = (s', .error f) := by
  rw [catching, run_bind, run_observe, ends]
  simp only [passed]
  rfl

end Routine

/-! ## Leaving operations to others -/

/-- The protocol of all that a task may do of its own. -/
def Protocol.free : Protocol Unit where
  step _ e _ := e.effect.own
  own _ _ _ step := step

/-- A process that obeys some protocol leaves operations to others. -/
theorem Proc.Obeys.free {α S : Type} {P : Protocol S} {task : Nat} {ends : α → S → Prop}
    {p : Proc α} {stage : S} (hp : p.Obeys P task ends stage) :
    p.Obeys .free task (fun _ _ => True) () := by
  have simulated : p.Obeys .free task (fun a _ => ∃ stage, True ∧ ends a stage) () :=
    hp.simulate (fun _ _ => True) (fun _ _ _ _ _ step => ⟨(), P.own _ _ _ step, trivial⟩) trivial
  exact simulated.mono fun _ _ _ => trivial

namespace Routine

/-- Whatever it is answered, a routine leaves operations to others. -/
def Own {α : Type} (r : Routine α) : Prop := ∀ task, r.Obeys .free task (fun _ _ => True) ()

namespace Own

variable {α β : Type} {r : Routine α}

theorem of_obeys {S : Type} {P : Protocol S} {ends : Nat → Except Failure α → S → Prop} {stage : S}
    (obeys : ∀ task, r.Obeys P task (ends task) stage) : r.Own :=
  fun task => Proc.Obeys.free (obeys task)

theorem pure (a : α) : (Pure.pure a : Routine α).Own := fun _ => trivial

theorem throw (f : Failure) : (MonadExcept.throw f : Routine α).Own := fun _ => trivial

theorem ofExcept (x : Except Failure α) : (Routine.ofExcept x).Own := fun _ => trivial

theorem command (c : Command) : (Routine.command c).Own := fun _ _ _ _ => ⟨(), trivial, trivial⟩

theorem exposition : Routine.exposition.Own := fun _ _ _ _ => ⟨(), trivial, trivial⟩

theorem ask {e : Effect} (own : e.own) : (Routine.ask e).Own := fun _ _ _ _ => ⟨(), own, trivial⟩

theorem bind {f : α → Routine β} (first : r.Own) (next : ∀ a, (f a).Own) : (r >>= f).Own := by
  intro task
  exact Obeys.bind _ (first task) (fun a _ _ => next a task) fun _ _ _ => trivial

theorem map (g : α → β) (own : r.Own) : (g <$> r).Own := by
  intro task
  exact Obeys.map _ g (own task) fun _ _ _ => trivial

theorem observe {f : Except Failure α → Routine β} (first : r.Own)
    (next : ∀ outcome, (f outcome).Own) : (Routine.observe r >>= f).Own := by
  intro task
  exact Obeys.observe _ (first task) fun outcome _ _ => next outcome task

theorem catching {handled : Failure → Bool} {handler : Failure → Routine α} (first : r.Own)
    (next : ∀ f, (handler f).Own) : (r.catching handled handler).Own := by
  intro task
  exact Obeys.catching _ (first task) (fun _ _ _ => trivial) (fun f _ _ _ => next f task)
    fun _ _ _ _ => trivial

end Own

end Routine

end Turnstile

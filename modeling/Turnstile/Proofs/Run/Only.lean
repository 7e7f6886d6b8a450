import Turnstile.Proofs.Run.Doings
import Turnstile.Proofs.Run.Routine
import Turnstile.Proofs.Store.Commands

set_option autoImplicit false

/-! # What a process restricts itself to

A process that restricts itself to some effects performs no others, whatever it is answered
(`Proc.Only`), and what is composed of such routines is one. Where the effects only read or note
something, a process that runs alone leaves all but its notes as it was (`Proc.Only.still_run`). -/

namespace Turnstile

/-- Every effect may be answered. -/
theorem Effect.nonempty_answer (e : Effect) : Nonempty e.Answer := by
  cases e with
  | command => exact ⟨.ok .null⟩
  | pause | wait | log | countOutcome | countRequest | operate => exact ⟨()⟩
  | exposition => exact ⟨.ok ""⟩
  | clock => exact ⟨.ok 0⟩
  | monotonic => exact ⟨.ok (seconds 0)⟩
  | freshToken => exact ⟨(0 : Nat)⟩
  | handle => exact ⟨none⟩

namespace Proc

variable {α β : Type} {allowed : Effect → Prop}

/-- Whatever it is answered, a process performs only effects that are allowed. -/
def Only (allowed : Effect → Prop) : Proc α → Prop
  | .done _ => True
  | .perform e next => allowed e ∧ ∀ answer, (next answer).Only allowed

theorem Only.bind {p : Proc α} {f : α → Proc β} (first : p.Only allowed)
    (next : ∀ a, (f a).Only allowed) : (p.bind f).Only allowed := by
  induction p with
  | done a => exact next a
  | perform e rest ih => exact ⟨first.1, fun answer => ih answer (first.2 answer)⟩

/-- A process that obeys a protocol restricts itself to what the protocol's steps do. -/
theorem Obeys.only {S : Type} {P : Protocol S} {task : Nat} {ends : α → S → Prop} {p : Proc α}
    {stage : S} (hp : p.Obeys P task ends stage)
    (steps : ∀ stage e stage', P.step stage e stage' → allowed e.effect) : p.Only allowed := by
  induction p generalizing stage with
  | done a => trivial
  | perform e next ih =>
    constructor
    · obtain ⟨answer⟩ := e.nonempty_answer
      obtain ⟨stage', step, -⟩ := hp 0 .perform answer
      exact steps _ _ _ step
    · intro answer
      obtain ⟨stage', -, rest⟩ := hp 0 .perform answer
      exact ih answer rest

end Proc

/-! ## Routines -/

namespace Routine

/-- Whatever it is answered, a routine performs only effects that are allowed. -/
def Only {α : Type} (allowed : Effect → Prop) (r : Routine α) : Prop := r.run.Only allowed

namespace Only

variable {α β : Type} {allowed : Effect → Prop} {r : Routine α}

theorem pure (a : α) : (Pure.pure a : Routine α).Only allowed := trivial

theorem throw (f : Failure) : (MonadExcept.throw f : Routine α).Only allowed := trivial

theorem ofExcept (x : Except Failure α) : (Routine.ofExcept x).Only allowed := trivial

theorem ask {e : Effect} (may : allowed e) : (Routine.ask e).Only allowed :=
  ⟨may, fun _ => trivial⟩

theorem command {c : Command} (may : allowed (.command c)) : (Routine.command c).Only allowed :=
  ⟨may, fun _ => trivial⟩

theorem readClock {source : Clock} (may : allowed (.clock source)) :
    (Routine.readClock source).Only allowed :=
  ⟨may, fun _ => trivial⟩

theorem monotonic (may : allowed .monotonic) : Routine.monotonic.Only allowed :=
  ⟨may, fun _ => trivial⟩

theorem exposition (may : allowed .exposition) : Routine.exposition.Only allowed :=
  ⟨may, fun _ => trivial⟩

theorem bind {f : α → Routine β} (first : r.Only allowed) (next : ∀ a, (f a).Only allowed) :
    (r >>= f).Only allowed := by
  refine Proc.Only.bind first fun outcome => ?_
  cases outcome with
  | ok a => exact next a
  | error e => trivial

theorem map (g : α → β) (only : r.Only allowed) : (g <$> r).Only allowed := by
  refine Proc.Only.bind only fun outcome => ?_
  cases outcome <;> trivial

/-- Something may be done first or not. -/
theorem first {c : Prop} [Decidable c] {r : Routine Unit} {f : Unit → Routine α}
    (may : r.Only allowed) (next : (f ()).Only allowed) :
    (if c then r >>= f else f ()).Only allowed := by
  split
  · exact bind may fun _ => next
  · exact next

theorem observe {f : Except Failure α → Routine β} (first : r.Only allowed)
    (next : ∀ outcome, (f outcome).Only allowed) : (Routine.observe r >>= f).Only allowed := by
  refine bind ?_ next
  exact Proc.Only.bind first fun _ => trivial

theorem catching {handled : Failure → Bool} {handler : Failure → Routine α}
    (first : r.Only allowed) (next : ∀ f, (handler f).Only allowed) :
    (r.catching handled handler).Only allowed := by
  refine observe first fun outcome => ?_
  cases outcome with
  | ok a => exact pure a
  | error f =>
    show Only allowed (if handled f then handler f else MonadExcept.throw f)
    split
    · exact next f
    · exact throw f

end Only

end Routine

/-! ## Effects that change nothing -/

/-- The effect reads something, draws a token or makes a note. -/
def Effect.IsQuiet : Effect → Prop
  | .command (.get _) | .command .ping => True
  | .log _ | .countRequest .. | .exposition | .clock _ | .monotonic | .freshToken => True
  | _ => False

/-- Of what bears on attempts nothing has changed from one system to the other. -/
structure System.Still (s s' : System) : Prop where
  epoch : s'.epoch = s.epoch
  elapsed : s'.elapsed = s.elapsed
  store : s'.store = s.store
  faults : s'.faults = s.faults
  skews : s'.skews = s.skews
  outcomes : s'.metrics.outcomes = s.metrics.outcomes

theorem System.Still.refl (s : System) : s.Still s := ⟨rfl, rfl, rfl, rfl, rfl, rfl⟩

theorem System.Still.trans {s s₁ s₂ : System} (first : s.Still s₁) (second : s₁.Still s₂) :
    s.Still s₂ where
  epoch := second.epoch.trans first.epoch
  elapsed := second.elapsed.trans first.elapsed
  store := second.store.trans first.store
  faults := second.faults.trans first.faults
  skews := second.skews.trans first.skews
  outcomes := second.outcomes.trans first.outcomes

/-- A command that leaves the store as it is, and meets no fault, changes nothing. -/
theorem System.still_command {c : Command} (task : Nat) {s : System} (noFault : s.faults = [])
    (reads : (c.perform s.elapsed s.store).1 = s.store) :
    s.Still (Effect.perform task ((Effect.command c).issue task s).action
      (((Effect.command c).issue task s).system.wait ((Effect.command c).issue task s).delay)
      (.command c)).1 := by
  have now : s.elapsed + max 0 0 = s.elapsed := by omega
  rw [Routine.issue_command c task noFault]
  refine ⟨rfl, now, ?_, rfl, rfl, rfl⟩
  show (c.perform (s.elapsed + max 0 0) s.store).1 = s.store
  rw [now, reads]

/-- A quiet effect that meets no fault changes nothing. -/
theorem Effect.IsQuiet.still {e : Effect} (quiet : e.IsQuiet) (task : Nat) {s : System}
    (noFault : s.faults = []) :
    s.Still (e.perform task (e.issue task s).action
      ((e.issue task s).system.wait (e.issue task s).delay)).1 := by
  have now : s.elapsed + max 0 0 = s.elapsed := by omega
  cases e with
  | command c =>
    refine System.still_command task noFault ?_
    cases c with
    | get key => exact Command.perform_get _ _ _
    | ping => rfl
    | _ => exact quiet.elim
  | log | countRequest | exposition | clock | monotonic | freshToken =>
    exact ⟨rfl, now, rfl, rfl, rfl, rfl⟩
  | _ => exact quiet.elim

/-- **A quiet process alone.** Where no fault waits, a process that only reads and makes notes
    leaves all else as it was. -/
theorem Proc.Only.still_run {α : Type} {p : Proc α} (only : p.Only Effect.IsQuiet) (task : Nat)
    {s : System} (noFault : s.faults = []) : s.Still (p.run task s).1 := by
  induction p generalizing s with
  | done a => exact .refl s
  | perform e next ih =>
    have first := only.1.still task noFault
    exact first.trans (ih _ (only.2 _) (first.faults.trans noFault))

end Turnstile

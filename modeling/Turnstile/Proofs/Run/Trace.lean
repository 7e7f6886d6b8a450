import Turnstile.Proofs.Run.Protocol

set_option autoImplicit false

/-! # What a trace tells of a run

The trace that a system keeps tells the commands of a run's history, in their order
(`Schedule.Run.accesses`), and its counters how often each outcome was counted
(`Schedule.Run.outcomes`). -/

namespace Turnstile

/-- A command of a task, the instant at which it took effect, and the reply. -/
structure Access where
  time : Int
  task : Nat
  command : Command
  reply : Except Failure Json

/-- The command that an entry of a trace tells of. -/
def TraceEntry.access? : TraceEntry → Option Access
  | ⟨time, task, .command c reply⟩ => some ⟨time, task, c, reply⟩
  | _ => none

/-- The commands in a system's trace. -/
def System.accesses (s : System) : List Access := s.trace.filterMap TraceEntry.access?

/-- The command that a task issued. -/
def Event.access? : Event → Option Access
  | ⟨time, task, .command c, _, reply⟩ => some ⟨time, task, c, reply⟩
  | _ => none

theorem Effect.accesses_issue (task : Nat) (s : System) (e : Effect) :
    (e.issue task s).system.accesses = s.accesses := by
  cases e with
  | pause ms =>
    show (s.trace ++ [_]).filterMap TraceEntry.access? = _
    rw [List.filterMap_append]
    exact List.append_nil _
  | _ => rfl

theorem Effect.accesses_perform (task : Nat) (action : FaultAction) (s : System) (e : Effect) :
    (e.perform task action s).1.accesses = s.accesses
      ++ [⟨s.elapsed, task, e, action, (e.perform task action s).2⟩].filterMap Event.access? := by
  cases e with
  | command c =>
    show (s.trace ++ [_]).filterMap TraceEntry.access? = _
    rw [List.filterMap_append]
    rfl
  | operate operation =>
    rw [show [_].filterMap Event.access? = [] from rfl, List.append_nil]
    cases operation <;> rfl
  | _ => exact (List.append_nil _).symm

/-- The commands of a run's history are those that its trace tells of. -/
theorem Schedule.Run.accesses {α : Type} {setting : Setting α} {c d : Schedule α} {h : List Event}
    (quiet : ∀ s s', setting.outside s s' → s'.trace = s.trace) (run : Run setting c h d) :
    d.system.accesses = c.system.accesses ++ h.filterMap Event.access? := by
  have keeps : setting.Keeps fun s h =>
      s.accesses = c.system.accesses ++ h.filterMap Event.access? := by
    constructor
    case issue =>
      intro s h task e told
      rw [Effect.accesses_issue, told]
    case perform =>
      intro s h task action e told
      rw [Effect.accesses_perform, told, List.filterMap_append, List.append_assoc]
    case pass => exact fun _ _ _ told _ => told
    case outside =>
      intro s s' h told change
      rw [← told, System.accesses, quiet _ _ change]
      rfl
  exact run.keeps keeps (List.append_nil _).symm

/-! ## Counters -/

/-- The outcome that is counted. -/
def Event.outcome? (e : Event) : Option AttemptOutcome :=
  match e.effect with
  | .countOutcome outcome => some outcome
  | _ => none

theorem Effect.metrics_issue (task : Nat) (s : System) (e : Effect) :
    (e.issue task s).system.metrics = s.metrics := by
  cases e <;> rfl

/-- What a task does of its own adds to the counter of the outcome that it counts. -/
theorem Effect.outcomes_perform (task : Nat) (action : FaultAction) (s : System) (e : Effect)
    (own : e.own) (o : AttemptOutcome) :
    (e.perform task action s).1.metrics.outcomes.count o.name = s.metrics.outcomes.count o.name
      + ([⟨s.elapsed, task, e, action, (e.perform task action s).2⟩].filterMap
          Event.outcome?).count o := by
  cases e with
  | countOutcome outcome =>
    have counted := Tally.count_bump outcome.name o.name s.metrics.outcomes
    simp only [AttemptOutcome.name_injective.eq_iff] at counted
    refine counted.trans (congrArg _ ?_)
    show _ = [outcome].count o
    rw [List.count_singleton]
    rcases eq_or_ne outcome o with rfl | other
    · simp
    · simp [other]
  | operate operation =>
    cases operation with
    | keepHandle => rfl
    | _ => exact own.elim
  | _ => rfl

/-- The counters tell how often each outcome was counted in a run's history. -/
theorem Schedule.Run.outcomes {α : Type} {setting : Setting α} {c d : Schedule α} {h : List Event}
    (quiet : ∀ s s', setting.outside s s' → s'.metrics = s.metrics) (run : Run setting c h d)
    (own : ∀ e ∈ h, e.effect.own) (o : AttemptOutcome) :
    d.system.metrics.outcomes.count o.name = c.system.metrics.outcomes.count o.name
      + (h.filterMap Event.outcome?).count o := by
  have keeps : setting.Keeps fun s h => (∀ e ∈ h, e.effect.own) →
      s.metrics.outcomes.count o.name = c.system.metrics.outcomes.count o.name
        + (h.filterMap Event.outcome?).count o := by
    constructor
    case issue =>
      intro s h task e counted own
      rw [Effect.metrics_issue, counted own]
    case perform =>
      intro s h task action e counted own
      obtain ⟨before, mine⟩ := List.forall_mem_append.1 own
      rw [Effect.outcomes_perform _ _ _ _ (mine _ List.mem_cons_self), counted before,
        List.filterMap_append, List.count_append, Nat.add_assoc]
    case pass => exact fun _ _ _ counted _ => counted
    case outside =>
      intro s s' h counted change own
      rw [← counted own, quiet _ _ change]
  exact run.keeps keeps (fun _ => rfl) own

end Turnstile

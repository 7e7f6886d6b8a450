import Turnstile.Proofs.Limiter.Calls
import Turnstile.Proofs.Run.Doings
import Turnstile.Service

set_option autoImplicit false

/-! # Runs of the service

A run is observed after each of its steps. What is observed after a step is told by the system that
the steps before it led to (`Service.getElem?_trail`), and what every step keeps holds of all these
systems (`Service.after_invariant`). That the observations of a run are those of its steps and of
the stop, unless the stop fails, is `Service.observations_eq`. -/

namespace Turnstile

namespace Service

variable {l : Limiter} {s : System}

/-! ## One step -/

/-- What is observed leaves the system as it is, but for the trace and the log, which begin anew. -/
theorem observe_fst (s : System) (r : Routine Event) :
    (observe s r).1 = { (r.run.run 0 s).1 with trace := [], logs := [] } := by
  unfold observe
  generalize r.run.run 0 s = ran
  obtain ⟨s', outcome⟩ := ran
  cases outcome <;> rfl

/-- What is observed of a routine that does not fail is what it came to. -/
theorem observe_result {r : Routine Event} {event : Event} (ends : (r.run.run 0 s).2 = .ok event) :
    (observe s r).2.result = event := by
  unfold observe
  generalize r.run.run 0 s = ran at ends
  obtain ⟨s', outcome⟩ := ran
  subst ends
  rfl

/-- A routine that comes to an event is observed where that has led. -/
theorem observe_eq {r : Routine Event} {s' : System} {event : Event}
    (ran : r.run.run 0 s = (s', .ok event)) : observe s r = s'.observe event := by
  rw [observe, ran]

/-! ## Steps in a row -/

/-- The system that steps lead to. -/
def after (l : Limiter) : System → List Step → System
  | s, [] => s
  | s, next :: rest => after l (observe s (step l next)).1 rest

/-- What is observed after each of some steps. -/
def trail (l : Limiter) : System → List Step → List (Observation Event)
  | _, [] => []
  | s, next :: rest =>
    (observe s (step l next)).2 :: trail l (observe s (step l next)).1 rest

theorem after_append (s : System) (before rest : List Step) :
    after l s (before ++ rest) = after l (after l s before) rest := by
  induction before generalizing s with
  | nil => rfl
  | cons next before ih => exact ih _

/-- The system after one more step. -/
theorem after_concat (s : System) (before : List Step) (next : Step) :
    after l s (before ++ [next]) = (observe (after l s before) (step l next)).1 := by
  rw [after_append]
  rfl

/-- What is observed after a step is told by the system that the steps before it led to. -/
theorem getElem?_trail {steps : List Step} {i : Nat} {next : Step} (at_ : steps[i]? = some next) :
    (trail l s steps)[i]? = some (observe (after l s (steps.take i)) (step l next)).2 := by
  induction steps generalizing s i with
  | nil => cases at_
  | cons first rest ih =>
    cases i with
    | zero =>
      cases at_
      rfl
    | succ i => exact ih at_

theorem after_take_succ {steps : List Step} {i : Nat} {next : Step} (at_ : steps[i]? = some next) :
    after l s (steps.take (i + 1)) = (observe (after l s (steps.take i)) (step l next)).1 := by
  rw [List.take_add_one, at_]
  exact after_concat _ _ _

/-- What every step keeps holds after all of them. -/
theorem after_invariant {P : System → Prop} {steps : List Step}
    (each : ∀ next ∈ steps, ∀ s, P s → P (observe s (step l next)).1) (holds : P s) :
    P (after l s steps) := by
  induction steps generalizing s with
  | nil => exact holds
  | cons next rest ih =>
    rw [List.forall_mem_cons] at each
    exact ih each.2 (each.1 s holds)

/-! ## What a step leaves behind -/

theorem own_ping : Cache.ping.Own := by
  refine .catching (.bind (.command _) fun _ => .pure _) fun f => ?_
  exact .bind (.ask trivial) fun _ => .pure _

theorem own_check (l : Limiter) (id world subject : String) (plain hashed : Json) :
    (Guard.check l id world subject plain hashed).Own := by
  let p : Site := ⟨l, world, subject, true, true, true⟩
  exact .of_obeys fun _ => p.check_obeys rfl rfl rfl

theorem own_serve (l : Limiter) (id : String) (r : Request) (route : Route) :
    (serve l id r route).Own := by
  cases route with
  | health => exact .pure _
  | ready => exact .map _ own_ping
  | metrics => exact .bind .exposition fun _ => .pure _
  | enter world =>
    refine .bind (.ofExcept _) fun credentials => ?_
    exact .catching (.map _ (own_check l _ _ _ _ _)) fun _ => .pure _

theorem own_respond (l : Limiter) (id : String) (r : Request) : (respond l id r).Own := by
  unfold respond
  split
  · exact .catching (own_serve l _ _ _) fun _ => .throw _
  · exact .pure _
  · exact .pure _
  · exact .pure _

/-- The handling of a request leaves operations to others. -/
theorem own_handle (l : Limiter) (r : Request) : (handle l r).Own := by
  have id : r.id.Own := by
    unfold Request.id
    split
    · exact .bind (.ask trivial) fun _ => .pure _
    · exact .bind (.ask trivial) fun _ => .pure _
    · exact .pure _
  refine .bind id fun id => .observe (own_respond l id r) fun outcome => ?_
  cases outcome with
  | ok response => exact .bind (.ask trivial) fun _ => .bind (.ask trivial) fun _ => .pure _
  | error f => exact .pure _

/-- A step puts no fault in the way of commands but such as may be there. -/
def Step.Adds (ok : FaultAction → Prop) : Step → Prop
  | .operate (.addFault fault) => ok fault.action
  | _ => True

/-- Where only faults of some kind wait and are added, only such wait after a step. -/
theorem tame_step {ok : FaultAction → Prop} (perform : ok .perform) {next : Step}
    (adds : next.Adds ok) (tame : ∀ f ∈ s.faults, ok f.action) :
    ∀ f ∈ (observe s (step l next)).1.faults, ok f.action := by
  rw [observe_fst]
  cases next with
  | request r =>
    have own : (step l (.request r)).Own := .map _ (own_handle l r)
    exact (Proc.Obeys.tame_doings perform (own 0) tame).2
  | wait ms =>
    have own : (step l (.wait ms)).Own := .bind (.ask trivial) fun _ => .pure _
    exact (Proc.Obeys.tame_doings perform (own 0) tame).2
  | operate operation =>
    cases operation with
    | addFault fault =>
      have added : ∀ f ∈ s.faults ++ [fault], ok f.action :=
        List.forall_mem_append.2 ⟨tame, List.forall_mem_singleton.2 adds⟩
      exact added
    | clearFaults =>
      intro f hf
      cases hf
    | _ => exact tame

/-- No step takes a token back. -/
theorem tokens_le_step (next : Step) : s.tokens ≤ (observe s (step l next)).1.tokens := by
  rw [observe_fst]
  exact Proc.tokens_le_run 0 _ s

/-- Nor do any steps. -/
theorem tokens_le_after (steps : List Step) : s.tokens ≤ (after l s steps).tokens :=
  after_invariant (P := fun s' => s.tokens ≤ s'.tokens)
    (fun _ _ _ le => Nat.le_trans le (tokens_le_step _)) (Nat.le_refl _)

/-- So there are no fewer tokens the further a run has come. -/
theorem tokens_le_take {steps : List Step} {j i : Nat} (le : j ≤ i) :
    (after l s (steps.take j)).tokens ≤ (after l s (steps.take i)).tokens := by
  have split : steps.take i = steps.take j ++ (steps.take i).drop j := by
    have whole := List.take_append_drop j (steps.take i)
    rw [List.take_take, Nat.min_eq_left le] at whole
    exact whole.symm
  rw [split, after_append]
  exact tokens_le_after _

/-! ## Whole runs -/

/-- The system that a run's start and some steps lead to. -/
def reached (settings : Settings) (s : System) (steps : List Step) : System :=
  after ⟨settings.limiter, .system⟩ (start settings s).1 steps

/-- The start leaves all but the log and the trace as it was. -/
theorem start_fst (settings : Settings) (s : System) :
    (start settings s).1 = { s with trace := [], logs := [] } := by
  rw [start, observe_fst, Routine.run_bind, Routine.run_log]
  rfl

/-- The observations of steps and of the stop after them, unless the stop fails. -/
theorem observationsOf_eq (s : System) (steps : List Step) :
    observationsOf l s steps
      = (stop (after l s steps)).map fun last => trail l s steps ++ [last] := by
  induction steps generalizing s with
  | nil =>
    rw [observationsOf, after, trail]
    cases stop s <;> rfl
  | cons next rest ih =>
    rw [observationsOf, after, trail]
    simp only [ih]
    cases stop (after l (observe s (step l next)).1 rest) <;> rfl

/-- **The observations of a run** are those of its start, of its steps and of the stop, unless the
    stop fails. -/
theorem observations_eq (settings : Settings) (s : System) (steps : List Step) :
    observations settings s steps
      = (stop (reached settings s steps)).map fun last =>
        (start settings s).2 :: trail ⟨settings.limiter, .system⟩ (start settings s).1 steps
          ++ [last] := by
  rw [observations]
  simp only [observationsOf_eq]
  unfold reached
  cases stop (after ⟨settings.limiter, .system⟩ (start settings s).1 steps) <;> rfl

end Service

end Turnstile

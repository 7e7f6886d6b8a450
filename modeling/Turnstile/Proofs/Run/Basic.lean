import Turnstile.Proc.Schedule

set_option autoImplicit false

/-! # Runs at any pace

`Schedule.step?` wakes the task whose time comes first. A `Schedule.Run` is wider: any waiting task
may be the next to go on, after any delay, so a run stands for every interleaving of the tasks and
for whatever time a command takes. Between two turns the surroundings may change the system past the
tasks. A run keeps the history of all that the tasks did.

The schedule's own steps are such a run (`Schedule.run_of_steps`). -/

namespace Turnstile

/-- One thing that a task did: an effect with the answer to it, and what came in its way. -/
structure Event where
  time : Int
  task : Nat
  effect : Effect
  action : FaultAction
  answer : effect.Answer

/-- What a process does at once, before its next wait. -/
def Proc.events {α : Type} (task : Nat) : Proc α → System → List Event
  | .done _, _ => []
  | .perform e next, s =>
    let issued := e.issue task s
    if e.waits then []
    else
      let performed := e.perform task issued.action issued.system
      ⟨issued.system.elapsed, task, e, issued.action, performed.2⟩
        :: (next performed.2).events task performed.1

theorem Effect.issue_elapsed (task : Nat) (s : System) (e : Effect) :
    (e.issue task s).system.elapsed = s.elapsed := by
  cases e <;> rfl

theorem Effect.perform_elapsed (task : Nat) (action : FaultAction) (s : System) (e : Effect) :
    (e.perform task action s).1.elapsed = s.elapsed := by
  cases e with
  | operate operation => cases operation <;> rfl
  | _ => rfl

/-- A task runs up to its next wait at one instant. -/
theorem Proc.elapsed_toWait {α : Type} (task turn : Nat) (p : Proc α) (s : System) :
    (p.toWait task turn s).1.elapsed = s.elapsed := by
  induction p generalizing s with
  | done a => rfl
  | perform e next ih =>
    rw [toWait]
    by_cases hw : e.waits = true
    · rw [if_pos hw]
      exact Effect.issue_elapsed task s e
    · rw [if_neg hw, ih, Effect.perform_elapsed, Effect.issue_elapsed]

/-- What a run leaves open: the changes that the surroundings may make between two turns, and the
    instants up to which they may let time pass. -/
structure Setting (α : Type) where
  outside : System → System → Prop := fun _ _ => False
  mayPass : Schedule α → Int → Prop := fun _ _ => True

/-! ## The task that comes first -/

variable {α : Type}

/-- Where a task waits, one comes first. -/
theorem Task.first?_ne_none {tasks : List (Task α)} {v : Waiting α}
    (hv : .waiting v ∈ tasks) : Task.first? tasks ≠ none := by
  induction tasks with
  | nil => simp at hv
  | cons t rest ih =>
    cases t with
    | ended a => simpa [Task.first?] using ih (by simpa using hv)
    | waiting u =>
      simp only [Task.first?]
      split
      · split <;> simp
      · simp

/-- The task that comes first wakes no later than any other. -/
theorem Task.first?_wake_le {tasks : List (Task α)} {i : Nat} {v w : Waiting α}
    (hw : Task.first? tasks = some (i, w)) (hv : .waiting v ∈ tasks) : w.wake ≤ v.wake := by
  induction tasks generalizing i w with
  | nil => simp at hv
  | cons t rest ih =>
    cases t with
    | ended a =>
      simp only [Task.first?, Option.map_eq_some_iff, Prod.mk.injEq] at hw
      obtain ⟨⟨k, u⟩, hu, rfl, rfl⟩ := hw
      exact ih hu (by simpa using hv)
    | waiting u =>
      have hv : v = u ∨ .waiting v ∈ rest := by simpa using hv
      simp only [Task.first?] at hw
      split at hw
      · next k x hr =>
        have hx : .waiting v ∈ rest → x.wake ≤ v.wake := ih hr
        split at hw
        · next hb =>
          simp only [Option.some.injEq, Prod.mk.injEq] at hw
          obtain ⟨rfl, rfl⟩ := hw
          rcases hv with rfl | hv
          · simp only [Waiting.before, Bool.or_eq_true, decide_eq_true_eq, Bool.and_eq_true] at hb
            omega
          · exact hx hv
        · next hb =>
          simp only [Option.some.injEq, Prod.mk.injEq] at hw
          obtain ⟨rfl, rfl⟩ := hw
          rcases hv with rfl | hv
          · exact Int.le_refl _
          · have := hx hv
            simp only [Waiting.before, Bool.or_eq_true, decide_eq_true_eq, Bool.and_eq_true] at hb
            omega
      · next hr =>
        simp only [Option.some.injEq, Prod.mk.injEq] at hw
        obtain ⟨rfl, rfl⟩ := hw
        rcases hv with rfl | hv
        · exact Int.le_refl _
        · exact absurd hr (Task.first?_ne_none hv)

/-! ## Runs -/

namespace Schedule

/-- What the `i`-th task does when it wakes. -/
def events (c : Schedule α) (i : Nat) (w : Waiting α) : List Event :=
  let performed := w.effect.perform i w.action { c.system with elapsed := w.wake }
  ⟨w.wake, i, w.effect, w.action, performed.2⟩ :: (w.next performed.2).events i performed.1

/-- `Run setting c history d`: turns of the tasks lead from `c` to `d`, and `history` is what they
    did. -/
inductive Run (setting : Setting α) (c : Schedule α) : List Event → Schedule α → Prop where
  | start : Run setting c [] c
  | wake {history : List Event} {d : Schedule α} (run : Run setting c history d) {i : Nat}
      {w : Waiting α} (waiting : d.tasks[i]? = some (.waiting w)) {t : Int}
      (later : d.system.elapsed ≤ t) (may : setting.mayPass d t) :
      Run setting c (history ++ d.events i { w with wake := t }) (d.wake i { w with wake := t })
  | outside {history : List Event} {d : Schedule α} (run : Run setting c history d) {s : System}
      (change : setting.outside d.system s) : Run setting c history { d with system := s }

theorem Run.trans {setting : Setting α} {c d e : Schedule α} {h k : List Event}
    (first : Run setting c h d) (second : Run setting d k e) : Run setting c (h ++ k) e := by
  induction second with
  | start => rw [List.append_nil]; exact first
  | wake run waiting later may ih =>
    rw [← List.append_assoc]
    exact .wake ih waiting later may
  | outside run change ih => exact .outside ih change

end Schedule

/-! ## What a run keeps -/

/-- What a property of the system and of what was done so far has to satisfy to hold throughout a
    run, whatever the tasks are. -/
structure Setting.Keeps (setting : Setting α) (inv : System → List Event → Prop) : Prop where
  issue : ∀ s h task (e : Effect), inv s h → inv (e.issue task s).system h
  perform : ∀ s h task action (e : Effect), inv s h → inv (e.perform task action s).1
    (h ++ [⟨s.elapsed, task, e, action, (e.perform task action s).2⟩])
  pass : ∀ s h t, inv s h → s.elapsed ≤ t → inv { s with elapsed := t } h
  outside : ∀ s s' h, inv s h → setting.outside s s' → inv s' h

/-- Up to its next wait a task keeps what holds. -/
theorem Setting.Keeps.toWait {setting : Setting α} {inv : System → List Event → Prop}
    (keeps : setting.Keeps inv) (task turn : Nat) {p : Proc α} {s : System} {h : List Event}
    (hi : inv s h) :
    inv (p.toWait task turn s).1 (h ++ p.events task s) := by
  induction p generalizing s h with
  | done a =>
    rw [Proc.events, List.append_nil]
    exact hi
  | perform e next ih =>
    have issued := keeps.issue s h task e hi
    rw [Proc.toWait, Proc.events]
    by_cases hw : e.waits = true
    · rw [if_pos hw, if_pos hw, List.append_nil]
      exact issued
    · rw [if_neg hw, if_neg hw, List.append_cons]
      exact ih _ (keeps.perform _ _ task _ e issued)

namespace Schedule

/-- **What a run keeps.** A property that every event keeps, and the passing of time, and the
    surroundings, holds wherever a run leads. -/
theorem Run.keeps {setting : Setting α} {inv : System → List Event → Prop}
    (keeps : setting.Keeps inv) {c d : Schedule α} {h : List Event} (run : Run setting c h d)
    (hi : inv c.system []) : inv d.system h := by
  induction run with
  | start => exact hi
  | @wake h d run i w waiting t later may ih =>
    have woken := keeps.perform _ _ i w.action w.effect (keeps.pass _ _ t ih later)
    rw [events, List.append_cons]
    exact keeps.toWait i d.turns woken
  | outside run change ih => exact keeps.outside _ _ _ ih change

/-! ## Given turns -/

/-- Let the tasks take given turns, each at an instant, and tell what they did. There is nothing to
    tell when a task that has ended is to take a turn, or time would go back. -/
def follow (c : Schedule α) : List (Nat × Int) → Option (List Event × Schedule α)
  | [] => some ([], c)
  | (i, t) :: rest =>
    match c.tasks[i]? with
    | some (.waiting w) =>
      if c.system.elapsed ≤ t then
        (follow (c.wake i { w with wake := t }) rest).map fun (h, d) =>
          (c.events i { w with wake := t } ++ h, d)
      else none
    | _ => none

/-- Turns that are taken are a run. -/
theorem run_of_follow {setting : Setting α} (may : ∀ c t, setting.mayPass c t) {c d : Schedule α}
    {turns : List (Nat × Int)} {h : List Event} (hf : c.follow turns = some (h, d)) :
    Run setting c h d := by
  induction turns generalizing c h with
  | nil =>
    simp only [follow, Option.some.injEq, Prod.mk.injEq] at hf
    obtain ⟨rfl, rfl⟩ := hf
    exact .start
  | cons turn rest ih =>
    obtain ⟨i, t⟩ := turn
    rw [follow] at hf
    split at hf
    · next w hw =>
      split at hf
      · next later =>
        simp only [Option.map_eq_some_iff, Prod.mk.injEq] at hf
        obtain ⟨⟨k, e⟩, hk, rfl, rfl⟩ := hf
        have first : Run setting c ([] ++ c.events i { w with wake := t })
            (c.wake i { w with wake := t }) := .wake .start hw later (may c t)
        exact first.trans (ih hk)
      · cases hf
    · cases hf

/-! ## The schedule's own steps -/

/-- A schedule that satisfies `P` at every step, together with what was done before, and so lets
    each of its own steps happen, runs to its end. -/
theorem run_of_steps {setting : Setting α} {P : List Event → Schedule α → Prop}
    (keeps : ∀ h c i w, P h c → Task.first? c.tasks = some (i, w) →
      P (h ++ c.events i w) (c.wake i w))
    (lets : ∀ h c i w, P h c → Task.first? c.tasks = some (i, w) →
      c.system.elapsed ≤ w.wake ∧ setting.mayPass c w.wake)
    {h : List Event} (c : Schedule α) (hc : P h c) :
    ∃ history, Run setting c history c.run ∧ P (h ++ history) c.run := by
  induction c using WellFounded.induction (r := Less) WellFoundedRelation.wf generalizing h with
  | _ c ih =>
    cases hs : c.step? with
    | none =>
      rw [run_of_step?_eq_none hs]
      exact ⟨[], .start, by rwa [List.append_nil]⟩
    | some d =>
      rw [run_of_step?_eq_some hs]
      have less := step?_less hs
      simp only [step?, Option.map_eq_some_iff] at hs
      obtain ⟨⟨i, w⟩, hw, rfl⟩ := hs
      obtain ⟨k, hk, P'⟩ := ih _ less (keeps h c i w hc hw)
      obtain ⟨later, may⟩ := lets h c i w hc hw
      refine ⟨c.events i w ++ k, ?_, by rwa [← List.append_assoc]⟩
      exact (Run.wake .start (Task.getElem?_of_first? hw) later may).trans hk

/-! ## Where all tasks have ended -/

/-- A schedule that has run has no step left. -/
theorem step?_run (c : Schedule α) : c.run.step? = none := by
  induction c using WellFounded.induction (r := Less) WellFoundedRelation.wf with
  | _ c ih =>
    cases hs : c.step? with
    | none =>
      rw [run_of_step?_eq_none hs]
      exact hs
    | some d =>
      rw [run_of_step?_eq_some hs]
      exact ih d (step?_less hs)

/-- Where no step is left no task waits. -/
theorem not_waiting_of_step?_eq_none {c : Schedule α} (h : c.step? = none) (w : Waiting α) :
    .waiting w ∉ c.tasks := by
  intro hw
  rw [step?, Option.map_eq_none_iff] at h
  exact Task.first?_ne_none hw h

/-- Where no task waits there is a result for every task. -/
theorem getElem?_results {c : Schedule α} (none : ∀ w, .waiting w ∉ c.tasks) (i : Nat) :
    c.results[i]? = (c.tasks[i]?).bind Task.result? := by
  rw [results]
  generalize c.tasks = tasks at none
  induction tasks generalizing i with
  | nil => simp
  | cons t rest ih =>
    have none' : ∀ w, .waiting w ∉ rest := fun w hw => none w (List.mem_cons_of_mem t hw)
    cases t with
    | waiting w => exact absurd List.mem_cons_self (none w)
    | ended a =>
      cases i with
      | zero => rfl
      | succ i => simpa [Task.result?] using ih i none'

theorem length_results {c : Schedule α} (none : ∀ w, .waiting w ∉ c.tasks) :
    c.results.length = c.tasks.length := by
  rw [results]
  generalize c.tasks = tasks at none
  induction tasks with
  | nil => rfl
  | cons t rest ih =>
    cases t with
    | waiting w => exact absurd List.mem_cons_self (none w)
    | ended a => exact congrArg (· + 1) (ih fun w hw => none w (List.mem_cons_of_mem _ hw))

/-- A run neither adds nor drops tasks. -/
theorem Run.length_tasks {setting : Setting α} {c d : Schedule α} {h : List Event}
    (run : Run setting c h d) : d.tasks.length = c.tasks.length := by
  induction run with
  | start => rfl
  | wake run waiting later may ih => rw [Schedule.wake, List.length_set, ih]
  | outside run change ih => exact ih

end Schedule

end Turnstile

import Turnstile.Proc.Run

set_option autoImplicit false

/-! # Tasks side by side

A schedule holds tasks that share one system. Each task that has not ended waits to perform an
effect. `Schedule.step?` lets the clock go on to the earliest wake time, of equal ones to the one
that was set first, and runs that task up to its next wait. `Schedule.after` takes a number of such
steps, and `Schedule.run` as many as there are, which is a finite number because every step replaces
one task's process by a part of it. By `run_eq_after` the two agree once all tasks have ended. -/

namespace Turnstile

/-! ## Parts of a process -/

/-- `Below p q`: the process `p` is what some answers leave of `q`. -/
inductive Proc.Below {α : Type} : Proc α → Proc α → Prop where
  | answer (e : Effect) (next : e.Answer → Proc α) (a : e.Answer) :
      Below (next a) (.perform e next)
  | later {p : Proc α} (e : Effect) (next : e.Answer → Proc α) (a : e.Answer)
      (h : Below p (next a)) : Below p (.perform e next)

theorem Proc.below_wf {α : Type} : WellFounded (Proc.Below (α := α)) := by
  constructor
  intro p
  induction p with
  | done a => exact ⟨_, fun q h => nomatch h⟩
  | perform e next ih =>
    refine ⟨_, fun q h => ?_⟩
    cases h with
    | answer _ _ a => exact ih a
    | later _ _ a h => exact (ih a).inv h

/-- One item of a list is replaced by a smaller one. -/
inductive OneSmaller {β : Type} (r : β → β → Prop) : List β → List β → Prop where
  | head {a b : β} {rest : List β} (h : r a b) : OneSmaller r (a :: rest) (b :: rest)
  | tail {a : β} {l m : List β} (h : OneSmaller r l m) : OneSmaller r (a :: l) (a :: m)

theorem OneSmaller.wf {β : Type} {r : β → β → Prop} (hr : WellFounded r) :
    WellFounded (OneSmaller r) := by
  constructor
  intro l
  induction l with
  | nil => exact ⟨_, fun m h => nomatch h⟩
  | cons b rest ih =>
    induction hr.apply b generalizing rest with
    | intro b _ ihb =>
      induction ih with
      | intro rest hrest ihrest =>
        refine ⟨_, fun m h => ?_⟩
        cases h with
        | head h => exact ihb _ h rest ⟨_, hrest⟩
        | tail h => exact ihrest _ h

theorem OneSmaller.set {β : Type} {r : β → β → Prop} {l : List β} {i : Nat} {a b : β}
    (hi : l[i]? = some b) (h : r a b) : OneSmaller r (l.set i a) l := by
  induction l generalizing i with
  | nil => simp at hi
  | cons c rest ih =>
    cases i with
    | zero =>
      simp at hi
      subst hi
      exact .head h
    | succ i => exact .tail (ih (by simpa using hi))

/-! ## Tasks -/

/-- A task that waits until `wake` to perform an effect, with `action` in its way, and go on with
    the answer. `turn` counts the waits begun in the schedule before this one. -/
structure Waiting (α : Type) where
  wake : Int
  turn : Nat
  effect : Effect
  action : FaultAction
  next : effect.Answer → Proc α

/-- A task between two steps. -/
inductive Task (α : Type) where
  | ended (result : α)
  | waiting (w : Waiting α)

namespace Task

variable {α : Type}

/-- What is left of a task's process. -/
def proc : Task α → Proc α
  | .ended a => .done a
  | .waiting w => .perform w.effect w.next

def result? : Task α → Option α
  | .ended a => some a
  | .waiting _ => none

end Task

/-- `v` comes before `w`. -/
def Waiting.before {α : Type} (v w : Waiting α) : Bool :=
  v.wake < w.wake || (v.wake = w.wake && v.turn < w.turn)

/-- The waiting task that comes first, with its number. -/
def Task.first? {α : Type} : List (Task α) → Option (Nat × Waiting α)
  | [] => none
  | .ended _ :: rest => (first? rest).map fun (i, v) => (i + 1, v)
  | .waiting w :: rest =>
    match first? rest with
    | some (i, v) => if v.before w then some (i + 1, v) else some (0, w)
    | none => some (0, w)

theorem Task.getElem?_of_first? {α : Type} {tasks : List (Task α)} {i : Nat} {w : Waiting α}
    (h : first? tasks = some (i, w)) : tasks[i]? = some (.waiting w) := by
  induction tasks generalizing i w with
  | nil => simp [first?] at h
  | cons t rest ih =>
    cases t with
    | ended a =>
      simp only [first?, Option.map_eq_some_iff, Prod.mk.injEq] at h
      obtain ⟨⟨j, v⟩, hj, rfl, rfl⟩ := h
      simpa using ih hj
    | waiting v =>
      simp only [first?] at h
      split at h
      · next j u hj =>
        split at h
        · simp only [Option.some.injEq, Prod.mk.injEq] at h
          obtain ⟨rfl, rfl⟩ := h
          simpa using ih hj
        · simp only [Option.some.injEq, Prod.mk.injEq] at h
          obtain ⟨rfl, rfl⟩ := h
          rfl
      · simp only [Option.some.injEq, Prod.mk.injEq] at h
        obtain ⟨rfl, rfl⟩ := h
        rfl

/-- Run a process up to its next wait, which is then the `turn`-th of the schedule. -/
def Proc.toWait {α : Type} (task turn : Nat) : Proc α → System → System × Task α
  | .done a, s => (s, .ended a)
  | .perform e next, s =>
    let issued := e.issue task s
    if e.waits then
      let wake := issued.system.elapsed + max 0 issued.delay
      (issued.system, .waiting ⟨wake, turn, e, issued.action, next⟩)
    else
      let performed := e.perform task issued.action issued.system
      (next performed.2).toWait task turn performed.1

theorem Proc.toWait_proc {α : Type} (task turn : Nat) (p : Proc α) (s : System) :
    (p.toWait task turn s).2.proc = p ∨ ((p.toWait task turn s).2.proc).Below p := by
  induction p generalizing s with
  | done a => exact .inl rfl
  | perform e next ih =>
    simp only [Proc.toWait]
    split
    · exact .inl rfl
    · rcases ih _ _ with h | h
      · rw [h]; exact .inr (.answer e next _)
      · exact .inr (.later e next _ h)

theorem Proc.toWait_below {α : Type} (task turn : Nat) (e : Effect) (next : e.Answer → Proc α)
    (answer : e.Answer) (s : System) :
    (((next answer).toWait task turn s).2.proc).Below (.perform e next) := by
  rcases Proc.toWait_proc task turn (next answer) s with h | h
  · rw [h]; exact .answer e next answer
  · exact .later e next answer h

/-! ## Schedules -/

/-- Tasks in a system; `turns` counts the waits begun so far. -/
structure Schedule (α : Type) where
  tasks : List (Task α)
  turns : Nat
  system : System

namespace Schedule

variable {α : Type}

/-- Some task of one schedule has less left to do than in the other, and the rest as much. -/
def Less (c d : Schedule α) : Prop :=
  OneSmaller (InvImage Proc.Below Task.proc) c.tasks d.tasks

instance : WellFoundedRelation (Schedule α) where
  rel := Less
  wf := InvImage.wf Schedule.tasks (OneSmaller.wf (InvImage.wf Task.proc Proc.below_wf))

/-- The start of a schedule: the `i`-th process starts after its delay. -/
def start (processes : List (Int × Proc α)) (s : System) : Schedule α where
  tasks := processes.mapIdx fun i (delay, p) =>
    .waiting ⟨s.elapsed + delay, i, .wait delay, .perform, fun _ => p⟩
  turns := processes.length
  system := s

/-- Wake the `i`-th task and run it up to its next wait. -/
def wake (c : Schedule α) (i : Nat) (w : Waiting α) : Schedule α :=
  let performed := w.effect.perform i w.action { c.system with elapsed := w.wake }
  let left := (w.next performed.2).toWait i c.turns performed.1
  ⟨c.tasks.set i left.2, c.turns + 1, left.1⟩

/-- Wake the task that comes first. -/
def step? (c : Schedule α) : Option (Schedule α) :=
  (Task.first? c.tasks).map fun (i, w) => c.wake i w

theorem wake_less {c : Schedule α} {i : Nat} {w : Waiting α}
    (h : c.tasks[i]? = some (.waiting w)) : Less (c.wake i w) c := by
  exact OneSmaller.set h (Proc.toWait_below i c.turns w.effect w.next _ _)

theorem step?_less {c d : Schedule α} (h : c.step? = some d) : Less d c := by
  simp only [step?, Option.map_eq_some_iff] at h
  obtain ⟨⟨i, w⟩, hw, rfl⟩ := h
  exact wake_less (Task.getElem?_of_first? hw)

/-- Step until all tasks have ended. -/
def run (c : Schedule α) : Schedule α :=
  match h : c.step? with
  | none => c
  | some d =>
    have := step?_less h
    run d
termination_by c

/-- The schedule after `n` steps, or after fewer when all tasks end before. -/
def after (c : Schedule α) : Nat → Schedule α
  | 0 => c
  | n + 1 =>
    match c.step? with
    | none => c
    | some d => d.after n

/-- A schedule in which all tasks have ended stays as it is. -/
theorem run_of_step?_eq_none {c : Schedule α} (h : c.step? = none) : c.run = c := by
  rw [run]
  split
  · rfl
  · simp_all

/-- A schedule runs on from its next step. -/
theorem run_of_step?_eq_some {c d : Schedule α} (h : c.step? = some d) : c.run = d.run := by
  rw [run]
  split
  · simp_all
  · simp_all

theorem run_after (c : Schedule α) (n : Nat) : (c.after n).run = c.run := by
  induction n generalizing c with
  | zero => rfl
  | succ n ih =>
    simp only [after]
    split
    · rfl
    · next d h => rw [ih d, run_of_step?_eq_some h]

/-- A run is as many steps as it takes. -/
theorem run_eq_after {c : Schedule α} {n : Nat} (h : (c.after n).step? = none) :
    c.run = c.after n := by
  rw [← run_after c n, run_of_step?_eq_none h]

/-- What the tasks that have ended ended in, in their order. -/
def results (c : Schedule α) : List α := c.tasks.filterMap Task.result?

end Schedule

end Turnstile

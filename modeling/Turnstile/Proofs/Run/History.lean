import Mathlib.Data.List.Induction
import Turnstile.Proofs.Run.Basic

set_option autoImplicit false

/-! # Histories

A history grows at its end. `Each` says of a history that every event in it stands in a relation to
what was done before it; to show it one looks at the last event only (`Each.snoc`). One such
relation is that every task goes on as soon as it can (`Punctual`). -/

namespace Turnstile

/-- An event in a longer history is the new one or was there before. -/
theorem snoc_cases {h before after : List Event} {e x : Event}
    (hh : h ++ [e] = before ++ x :: after) :
    (before = h ∧ x = e ∧ after = []) ∨ ∃ rest, h = before ++ x :: rest ∧ after = rest ++ [e] := by
  rcases List.eq_nil_or_concat after with rfl | ⟨rest, last, rfl⟩
  · obtain ⟨rfl, same⟩ := List.append_inj' hh rfl
    cases same
    exact .inl ⟨rfl, rfl, rfl⟩
  · rw [List.concat_eq_append, ← List.cons_append, ← List.append_assoc] at hh
    obtain ⟨rfl, same⟩ := List.append_inj' hh rfl
    cases same
    exact .inr ⟨rest, rfl, List.concat_eq_append⟩

/-- Every event of a history has the property together with what was done before it. -/
def Each (P : List Event → Event → Prop) (h : List Event) : Prop :=
  ∀ before x after, h = before ++ x :: after → P before x

theorem Each.nil (P : List Event → Event → Prop) : Each P [] := by
  intro before x after hh
  cases before <;> cases hh

theorem Each.snoc {P : List Event → Event → Prop} {h : List Event} {e : Event} (each : Each P h)
    (last : P h e) : Each P (h ++ [e]) := by
  intro before x after hh
  rcases snoc_cases hh with ⟨rfl, rfl, -⟩ | ⟨rest, rfl, -⟩
  · exact last
  · exact each before x rest rfl

/-- What holds of each event holds of each that was done by some moment. -/
theorem Each.left {P : List Event → Event → Prop} {h k : List Event} (each : Each P (h ++ k)) :
    Each P h := by
  rintro before x after rfl
  exact each before x (after ++ k) (by simp)

/-- A task is about to do what it issued at an instant: it did something then, and nothing since
    that takes time. -/
def IssuedAt (h : List Event) (i : Nat) (t : Int) : Prop :=
  ∃ before e after, h = before ++ e :: after ∧ e.task = i ∧ e.time = t
    ∧ ∀ x ∈ after, x.task = i → x.effect.waits = false

theorem IssuedAt.last (h : List Event) (e : Event) : IssuedAt (h ++ [e]) e.task e.time :=
  ⟨h, e, [], rfl, rfl, rfl, by simp⟩

theorem IssuedAt.append {h : List Event} {i : Nat} {t : Int} (issued : IssuedAt h i t) {e : Event}
    (quick : e.task = i → e.effect.waits = false) : IssuedAt (h ++ [e]) i t := by
  obtain ⟨before, x, after, rfl, task, time, rest⟩ := issued
  exact ⟨before, x, after ++ [e], by simp, task, time,
    List.forall_mem_append.2 ⟨rest, List.forall_mem_singleton.2 quick⟩⟩

/-! ## When a task last did something -/

/-- The instant at which a task last did something. -/
def lastTime? (h : List Event) (i : Nat) : Option Int :=
  h.foldl (fun last e => if e.task = i then some e.time else last) none

@[simp] theorem lastTime?_nil (i : Nat) : lastTime? [] i = none := rfl

theorem lastTime?_snoc (h : List Event) (e : Event) (i : Nat) :
    lastTime? (h ++ [e]) i = if e.task = i then some e.time else lastTime? h i := by
  rw [lastTime?, List.foldl_append]
  rfl

theorem lastTime?_append_of_ne {k : List Event} {i : Nat} (other : ∀ e ∈ k, e.task ≠ i)
    (h : List Event) : lastTime? (h ++ k) i = lastTime? h i := by
  induction k using List.reverseRecOn with
  | nil => rw [List.append_nil]
  | append_singleton k e ih =>
    rw [← List.append_assoc, lastTime?_snoc, if_neg (other e (by simp))]
    exact ih fun x hx => other x (by simp [hx])

/-- What a task did last it did at some event, unless it did nothing at all. -/
theorem lastTime?_cases (h : List Event) (i : Nat) :
    (lastTime? h i = none ∧ ∀ e ∈ h, e.task ≠ i)
      ∨ ∃ e ∈ h, e.task = i ∧ lastTime? h i = some e.time := by
  induction h using List.reverseRecOn with
  | nil => exact .inl ⟨rfl, by simp⟩
  | append_singleton h e ih =>
    rw [lastTime?_snoc]
    by_cases mine : e.task = i
    · exact .inr ⟨e, by simp, mine, if_pos mine⟩
    · rw [if_neg mine]
      rcases ih with ⟨none, others⟩ | ⟨x, hx, rest⟩
      · exact .inl ⟨none, List.forall_mem_append.2 ⟨others, List.forall_mem_singleton.2 mine⟩⟩
      · exact .inr ⟨x, List.mem_append_left _ hx, rest⟩

/-- How long an effect takes when nothing delays it. -/
def Effect.rest : Effect → Int
  | .pause ms | .wait ms => ms
  | _ => 0

/-- When a task does what it does next: at its start, or as soon as what it waits for is over. -/
def due (starts : Nat → Int) (h : List Event) (i : Nat) (effect : Effect) : Int :=
  ((lastTime? h i).map (· + max 0 effect.rest)).getD (starts i)

/-- The event comes as soon as it can. -/
def Punctual (starts : Nat → Int) (before : List Event) (e : Event) : Prop :=
  e.time = due starts before e.task e.effect

section

variable {starts : Nat → Int} {before : List Event} {e : Event}

/-- What a task does first it does at its start. -/
theorem Punctual.first (punctual : Punctual starts before e)
    (first : lastTime? before e.task = none) : e.time = starts e.task := by
  rw [punctual, due, first]
  rfl

/-- What a task does after something else it does when it has rested as long as is asked. -/
theorem Punctual.next (punctual : Punctual starts before e) {t : Int}
    (last : lastTime? before e.task = some t) : e.time = t + max 0 e.effect.rest := by
  rw [punctual, due, last]
  rfl

/-- What takes no time happens when the task last did something. -/
theorem Punctual.now (punctual : Punctual starts before e) {t : Int}
    (last : lastTime? before e.task = some t) (rest : e.effect.rest = 0) : e.time = t := by
  rw [punctual.next last, rest, Int.max_self, Int.add_zero]

end

/-- What a task does at once is punctual. -/
theorem Each.quick {starts : Nat → Int} {h k : List Event} (each : Each (Punctual starts) h)
    {i : Nat} {t : Int} (last : lastTime? h i = some t)
    (quick : ∀ e ∈ k, e.task = i ∧ e.time = t ∧ e.effect.waits = false) :
    Each (Punctual starts) (h ++ k) ∧ lastTime? (h ++ k) i = some t := by
  induction k generalizing h with
  | nil => simpa using And.intro each last
  | cons e k ih =>
    obtain ⟨task, time, waits⟩ := quick e (by simp)
    have rest : e.effect.rest = 0 := by
      cases effect : e.effect with
      | pause | wait =>
        rw [effect] at waits
        cases waits
      | _ => rfl
    have punctual : Punctual starts h e := by
      rw [Punctual, due, task, last, rest, time]
      simp
    rw [List.append_cons]
    refine ih (each.snoc punctual) ?_ fun x hx => quick x (by simp [hx])
    rw [lastTime?_snoc, if_pos task, time]

/-! ## Whose events there are -/

theorem Proc.task_of_mem_events {α : Type} {task : Nat} {p : Proc α} {s : System} {e : Event}
    (he : e ∈ p.events task s) : e.task = task := by
  induction p generalizing s with
  | done a => cases he
  | perform effect next ih =>
    rw [events] at he
    split at he
    · cases he
    · rcases List.mem_cons.1 he with rfl | he
      · rfl
      · exact ih _ he

/-- What a process does before its next wait takes no time. -/
theorem Proc.quick_of_mem_events {α : Type} {task : Nat} {p : Proc α} {s : System} {e : Event}
    (he : e ∈ p.events task s) :
    e.task = task ∧ e.time = s.elapsed ∧ e.effect.waits = false := by
  refine ⟨task_of_mem_events he, ?_⟩
  induction p generalizing s with
  | done a => cases he
  | perform effect next ih =>
    rw [events] at he
    split at he
    · cases he
    · next waits =>
      rcases List.mem_cons.1 he with rfl | he
      · exact ⟨Effect.issue_elapsed task s effect, by simpa using waits⟩
      · obtain ⟨time, rest⟩ := ih _ he
        rw [Effect.perform_elapsed, Effect.issue_elapsed] at time
        exact ⟨time, rest⟩

/-- A run that nothing from outside changes ends at the instant of its last event. -/
theorem Schedule.Run.eq_nil_or_exists_time {α : Type} {setting : Setting α} {c d : Schedule α}
    {h : List Event} (closed : ∀ s s', ¬ setting.outside s s') (run : Run setting c h d) :
    h = [] ∨ ∃ e ∈ h, e.time = d.system.elapsed := by
  cases run with
  | start => exact .inl rfl
  | @wake h d run i w waiting t later may =>
    refine .inr ⟨_, List.mem_append_right h List.mem_cons_self, ?_⟩
    rw [Schedule.wake, Proc.elapsed_toWait, Effect.perform_elapsed]
  | outside run change => exact absurd change (closed _ _)

/-- What is done is done by the tasks. -/
theorem Schedule.Run.task_lt {α : Type} {setting : Setting α} {c d : Schedule α} {h : List Event}
    (run : Run setting c h d) {e : Event} (he : e ∈ h) : e.task < c.tasks.length := by
  induction run with
  | start => cases he
  | @wake h d run i w waiting t later may ih =>
    rcases List.mem_append.1 he with he | he
    · exact ih he
    · have task : e.task = i := by
        rcases List.mem_cons.1 he with rfl | he
        · rfl
        · exact Proc.task_of_mem_events he
      rw [task, ← run.length_tasks]
      exact (List.getElem?_eq_some_iff.1 waiting).1
  | outside run change ih => exact ih he

end Turnstile

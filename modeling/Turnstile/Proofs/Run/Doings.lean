import Turnstile.Proofs.Run.History
import Turnstile.Proofs.Run.Trace

set_option autoImplicit false

/-! # What a process does

`Proc.Does` tells what a process does from its start to its end, whatever it is answered, and what
it comes to. What is composed of processes does what these do, one after the other
(`Proc.Does.bind_cases`, and for routines `Routine.Does.bind_cases` and its like). By the time a task
of a run has ended it has done what its process does (`Schedule.Run.does`), and so has a process that
runs alone (`Proc.does_doings`). -/

namespace Turnstile

/-- As a task, a process does some events from its start to its end, and comes to a result. -/
inductive Proc.Does {α : Type} (task : Nat) : Proc α → List Event → α → Prop where
  | done (a : α) : Does task (.done a) [] a
  | perform {e : Effect} {next : e.Answer → Proc α} {es : List Event} {a : α} (time : Int)
      (action : FaultAction) (answer : e.Answer) (rest : Does task (next answer) es a) :
      Does task (.perform e next) (⟨time, task, e, action, answer⟩ :: es) a

namespace Proc

variable {α β : Type} {task : Nat} {es : List Event}

/-- One process and then the next: what the one does, and then what the other does. -/
theorem Does.bind_cases {p : Proc α} {f : α → Proc β} {b : β} (h : (p.bind f).Does task es b) :
    ∃ a first second, es = first ++ second ∧ p.Does task first a ∧ (f a).Does task second b := by
  induction p generalizing es with
  | done a => exact ⟨a, [], es, rfl, .done a, h⟩
  | perform e next ih =>
    cases h with
    | perform time action answer rest =>
      obtain ⟨a, first, second, rfl, hp, hf⟩ := ih answer rest
      exact ⟨a, _ :: first, second, rfl, .perform time action answer hp, hf⟩

end Proc

/-! ## Routines -/

namespace Routine

/-- As a task, a routine does some events from its start to its end, and comes to a result or a
    failure. -/
def Does {α : Type} (r : Routine α) (task : Nat) (es : List Event) (outcome : Except Failure α) :
    Prop :=
  r.run.Does task es outcome

variable {α β : Type} {task : Nat} {es : List Event}

theorem does_pure {a : α} {x : Except Failure α} :
    (pure a : Routine α).Does task es x ↔ es = [] ∧ x = .ok a := by
  constructor
  · rintro ⟨⟩
    exact ⟨rfl, rfl⟩
  · rintro ⟨rfl, rfl⟩
    exact .done _

theorem does_throw {f : Failure} {x : Except Failure α} :
    (throw f : Routine α).Does task es x ↔ es = [] ∧ x = .error f := by
  constructor
  · rintro ⟨⟩
    exact ⟨rfl, rfl⟩
  · rintro ⟨rfl, rfl⟩
    exact .done _

theorem does_ofExcept {x y : Except Failure α} :
    (ofExcept x).Does task es y ↔ es = [] ∧ y = x := by
  constructor
  · rintro ⟨⟩
    exact ⟨rfl, rfl⟩
  · rintro ⟨rfl, rfl⟩
    exact .done _

/-- A single effect that does not fail. -/
theorem Does.of_ask {e : Effect} {x : Except Failure e.Answer} (h : (ask e).Does task es x) :
    ∃ time action answer, es = [⟨time, task, e, action, answer⟩] ∧ x = .ok answer := by
  cases h with
  | perform time action answer rest =>
    cases rest
    exact ⟨time, action, answer, rfl, rfl⟩

theorem Does.of_command {c : Command} {x : Except Failure Json}
    (h : (command c).Does task es x) : ∃ time action, es = [⟨time, task, .command c, action, x⟩] := by
  cases h with
  | perform time action answer rest =>
    cases rest
    exact ⟨time, action, rfl⟩

theorem Does.of_readClock {source : Clock} {x : Except Failure Int}
    (h : (readClock source).Does task es x) :
    ∃ time action, es = [⟨time, task, .clock source, action, x⟩] := by
  cases h with
  | perform time action answer rest =>
    cases rest
    exact ⟨time, action, rfl⟩

theorem Does.of_monotonic {x : Except Failure Binary64} (h : monotonic.Does task es x) :
    ∃ time action, es = [⟨time, task, .monotonic, action, x⟩] := by
  cases h with
  | perform time action answer rest =>
    cases rest
    exact ⟨time, action, rfl⟩

/-- One routine and then the next, unless the first fails. -/
theorem Does.bind_cases {r : Routine α} {f : α → Routine β} {x : Except Failure β}
    (h : (r >>= f).Does task es x) :
    (∃ e, r.Does task es (.error e) ∧ x = .error e)
      ∨ ∃ a first second, es = first ++ second ∧ r.Does task first (.ok a)
        ∧ (f a).Does task second x := by
  obtain ⟨outcome, first, second, rfl, hr, hf⟩ := Proc.Does.bind_cases h
  cases outcome with
  | ok a => exact .inr ⟨a, first, second, rfl, hr, hf⟩
  | error e =>
    cases hf
    rw [List.append_nil]
    exact .inl ⟨e, hr, rfl⟩

/-- An effect that does not fail, and what is done with its answer. -/
theorem Does.ask_cases {e : Effect} {f : e.Answer → Routine α} {x : Except Failure α}
    (h : (ask e >>= f).Does task es x) :
    ∃ time action answer rest, es = ⟨time, task, e, action, answer⟩ :: rest
      ∧ (f answer).Does task rest x := by
  rcases Does.bind_cases h with ⟨f, asks, rfl⟩ | ⟨a, first, rest, rfl, asks, hf⟩
  · obtain ⟨_, _, _, -, ⟨⟩⟩ := asks.of_ask
  · obtain ⟨time, action, _, rfl, ⟨⟩⟩ := asks.of_ask
    exact ⟨time, action, a, rest, rfl, hf⟩

/-- A single command, and what its reply is taken for unless it failed. -/
theorem Does.command_then {c : Command} {f : Json → Except Failure α} {x : Except Failure α}
    (h : (command c >>= fun value => ofExcept (f value)).Does task es x) :
    ∃ time action reply, es = [⟨time, task, .command c, action, reply⟩] ∧ x = reply.bind f := by
  rcases Does.bind_cases h with ⟨e, issues, rfl⟩ | ⟨value, first, rest, rfl, issues, ends⟩
  · obtain ⟨time, action, rfl⟩ := issues.of_command
    exact ⟨time, action, .error e, rfl, rfl⟩
  · obtain ⟨time, action, rfl⟩ := issues.of_command
    obtain ⟨rfl, rfl⟩ := does_ofExcept.1 ends
    exact ⟨time, action, .ok value, rfl, rfl⟩

/-- Something may be done first or not. -/
theorem Does.first_cases {c : Prop} [Decidable c] {r : Routine Unit} {f : Unit → Routine α}
    {x : Except Failure α} (h : (if c then r >>= f else f ()).Does task es x) :
    (∃ e, r.Does task es (.error e) ∧ x = .error e)
      ∨ ∃ first second, es = first ++ second ∧ (first = [] ∨ r.Does task first (.ok ()))
        ∧ (f ()).Does task second x := by
  split at h
  · rcases Does.bind_cases h with failed | ⟨⟨⟩, first, second, rfl, hr, hf⟩
    · exact .inl failed
    · exact .inr ⟨first, second, rfl, .inr hr, hf⟩
  · exact .inr ⟨[], es, rfl, .inl rfl, h⟩

theorem Does.of_map {r : Routine α} {f : α → β} {x : Except Failure β}
    (h : (f <$> r).Does task es x) : ∃ y, r.Does task es y ∧ x = y.map f := by
  obtain ⟨outcome, first, second, rfl, hr, hf⟩ := Proc.Does.bind_cases h
  cases outcome with
  | ok a =>
    cases hf
    exact ⟨.ok a, by rwa [List.append_nil], rfl⟩
  | error e =>
    cases hf
    exact ⟨.error e, by rwa [List.append_nil], rfl⟩

/-- A routine that is observed, and what is done with its result or failure. -/
theorem Does.observe_cases {r : Routine α} {f : Except Failure α → Routine β}
    {x : Except Failure β} (h : (Routine.observe r >>= f).Does task es x) :
    ∃ outcome first second, es = first ++ second ∧ r.Does task first outcome
      ∧ (f outcome).Does task second x := by
  rcases Does.bind_cases h with ⟨e, observed, rfl⟩ | ⟨outcome, first, second, rfl, observed, hf⟩
  · obtain ⟨a, _, _, -, -, ends⟩ := Proc.Does.bind_cases observed
    cases ends
  · obtain ⟨a, first, rest, rfl, hr, ends⟩ := Proc.Does.bind_cases observed
    cases ends
    exact ⟨outcome, first, second, by rw [List.append_nil], hr, hf⟩

/-- A routine with a handler: it succeeds, or fails in a way that passes, or is followed by what the
    handler does. -/
theorem Does.catching_cases {r : Routine α} {handled : Failure → Bool}
    {handler : Failure → Routine α} {x : Except Failure α}
    (h : (r.catching handled handler).Does task es x) :
    (∃ a, r.Does task es (.ok a) ∧ x = .ok a)
      ∨ (∃ f, r.Does task es (.error f) ∧ handled f = false ∧ x = .error f)
      ∨ ∃ f first second, es = first ++ second ∧ r.Does task first (.error f) ∧ handled f
        ∧ (handler f).Does task second x := by
  obtain ⟨outcome, first, second, rfl, hr, rest⟩ := Does.observe_cases h
  cases outcome with
  | ok a =>
    obtain ⟨rfl, rfl⟩ := does_pure.1 rest
    exact .inl ⟨a, by rwa [List.append_nil], rfl⟩
  | error f =>
    by_cases hf : handled f = true
    · simp only [hf, if_true] at rest
      exact .inr (.inr ⟨f, first, second, rfl, hr, hf, rest⟩)
    · simp only [hf] at rest
      obtain ⟨rfl, rfl⟩ := does_throw.1 rest
      exact .inr (.inl ⟨f, by rwa [List.append_nil], by simpa using hf, rfl⟩)

/-- A routine and what is run after it, however it ended. -/
theorem Does.ending_cases {r : Routine α} {last : Routine β} {x : Except Failure α}
    (h : (r.ending last).Does task es x) :
    ∃ outcome first second y, es = first ++ second ∧ r.Does task first outcome
      ∧ last.Does task second y ∧ x = y.bind fun _ => outcome := by
  obtain ⟨outcome, first, second, rfl, hr, rest⟩ := Does.observe_cases h
  refine ⟨outcome, first, second, ?_⟩
  rcases Does.bind_cases rest with ⟨e, hl, rfl⟩ | ⟨b, mid, tail, rfl, hl, ends⟩
  · exact ⟨.error e, rfl, hr, hl, rfl⟩
  · refine ⟨.ok b, ?_⟩
    cases outcome with
    | ok a =>
      obtain ⟨rfl, rfl⟩ := does_pure.1 ends
      exact ⟨rfl, hr, by rwa [List.append_nil], rfl⟩
    | error f =>
      obtain ⟨rfl, rfl⟩ := does_throw.1 ends
      exact ⟨rfl, hr, by rwa [List.append_nil], rfl⟩

end Routine

/-! ## Tasks of a run -/

section

variable {α : Type} {i : Nat}

/-- What a process does is what it does before its next wait, and what is left of it does then. -/
theorem Proc.Does.of_toWait {turn : Nat} {p : Proc α} {s : System} {es : List Event} {a : α}
    (h : (p.toWait i turn s).2.proc.Does i es a) : p.Does i (p.events i s ++ es) a := by
  induction p generalizing s with
  | done b => exact h
  | perform e next ih =>
    rw [toWait] at h
    rw [events]
    by_cases hw : e.waits = true
    · rw [if_pos hw] at h ⊢
      exact h
    · rw [if_neg hw] at h ⊢
      exact .perform _ _ _ (ih _ h)

namespace Schedule

variable {setting : Setting α} {c d : Schedule α} {h : List Event}

/-- What a task does from some moment on, and before that in a run, its process does. -/
theorem Run.does_append (run : Run setting c h d) {t u : Task α} (ht : c.tasks[i]? = some t)
    (hu : d.tasks[i]? = some u) {es : List Event} {a : α} (rest : u.proc.Does i es a) :
    t.proc.Does i (h.filter (·.task = i) ++ es) a := by
  induction run generalizing u es with
  | start =>
    cases ht.symm.trans hu
    exact rest
  | @wake h d run j w waiting time later may ih =>
    rw [List.filter_append, List.append_assoc]
    by_cases mine : j = i
    · subst mine
      refine ih waiting ?_
      have lt := (List.getElem?_eq_some_iff.1 waiting).1
      rw [Schedule.wake, List.getElem?_set_self lt, Option.some.injEq] at hu
      rw [← hu] at rest
      have all : (d.events j { w with wake := time }).filter (·.task = j)
          = d.events j { w with wake := time } := by
        refine List.filter_eq_self.2 fun e he => ?_
        rcases List.mem_cons.1 he with rfl | he
        · simp
        · simpa using Proc.task_of_mem_events he
      rw [all]
      exact .perform _ _ _ (.of_toWait rest)
    · rw [Schedule.wake, List.getElem?_set_ne mine] at hu
      have none : (d.events j { w with wake := time }).filter (·.task = i) = [] := by
        refine List.filter_eq_nil_iff.2 fun e he => ?_
        rcases List.mem_cons.1 he with rfl | he
        · simpa using mine
        · simpa [Proc.task_of_mem_events he] using mine
      rw [none]
      exact ih hu rest
  | outside run change ih => exact ih hu rest

/-- **What a task has done.** By the time a task has ended it has done what its process does, after
    it waited for its start. -/
theorem Run.does {processes : List (Int × Proc α)} {s : System}
    (run : Run setting (Schedule.start processes s) h d) {delay : Int} {p : Proc α}
    (hi : processes[i]? = some (delay, p)) {a : α} (ended : d.tasks[i]? = some (.ended a)) :
    ∃ first es, h.filter (·.task = i) = first :: es ∧ first.effect = .wait delay
      ∧ p.Does i es a := by
  have begins : (Schedule.start processes s).tasks[i]?
      = some (.waiting ⟨s.elapsed + delay, i, .wait delay, .perform, fun _ => p⟩) := by
    simp [Schedule.start, List.getElem?_mapIdx, hi]
  have all := run.does_append begins ended (.done a)
  rw [List.append_nil] at all
  generalize h.filter (·.task = i) = es at all
  cases all with
  | perform time action answer rest => exact ⟨_, _, rfl, rfl, rest⟩

/-- What the tasks of a run did, the worlds admitted that it led through. -/
theorem Run.exists_admits (run : Run setting c h d) : ∀ e ∈ h, ∃ v : World, v.Admits e := by
  have keeps : setting.Keeps fun _ h => ∀ e ∈ h, ∃ v : World, v.Admits e := by
    constructor
    case issue => exact fun _ _ _ _ admitted => admitted
    case perform =>
      intro s h task action e admitted
      have woken := World.admits_perform s [] task action e
      exact List.forall_mem_append.2 ⟨admitted, List.forall_mem_singleton.2 ⟨_, woken⟩⟩
    case pass => exact fun _ _ _ admitted _ => admitted
    case outside => exact fun _ _ _ admitted _ => admitted
  exact run.keeps keeps (by simp)

/-- So they did with any part of what one task did. -/
theorem Run.exists_admits_of_split (run : Run setting c h d) {pre es post : List Event}
    (split : h.filter (·.task = i) = pre ++ es ++ post) : ∀ e ∈ es, ∃ v : World, v.Admits e := by
  intro e he
  have mem : e ∈ h.filter (·.task = i) := by simp [split, he]
  exact run.exists_admits e (List.mem_filter.1 mem).1

end Schedule

end

/-- A task with a result has ended. -/
theorem Task.exists_ended {α : Type} {t : Option (Task α)} (h : (t.bind Task.result?).isSome) :
    ∃ a, t = some (.ended a) := by
  match t with
  | some (.ended a) => exact ⟨a, rfl⟩
  | some (.waiting w) => cases h
  | none => cases h

/-! ## Running alone -/

namespace Proc

variable {α β : Type}

/-- What a process does that runs as the only task. -/
def doings (task : Nat) : Proc α → System → List Event
  | .done _, _ => []
  | .perform e next, s =>
    let issued := e.issue task s
    let waited := issued.system.wait issued.delay
    let performed := e.perform task issued.action waited
    ⟨waited.elapsed, task, e, issued.action, performed.2⟩
      :: (next performed.2).doings task performed.1

theorem does_doings (task : Nat) (p : Proc α) (s : System) :
    p.Does task (p.doings task s) (p.run task s).2 := by
  induction p generalizing s with
  | done a => exact .done a
  | perform e next ih => exact .perform _ _ _ (ih _ _)

theorem doings_bind (task : Nat) (p : Proc α) (f : α → Proc β) (s : System) :
    (p.bind f).doings task s
      = p.doings task s ++ (f (p.run task s).2).doings task (p.run task s).1 := by
  induction p generalizing s with
  | done a => rfl
  | perform e next ih =>
    simp only [perform_bind, doings, run, List.cons_append]
    rw [ih]

/-- What a process does that runs alone, the worlds admit that it leads through. -/
theorem exists_admits_doings (task : Nat) (p : Proc α) (s : System) :
    ∀ e ∈ p.doings task s, ∃ v : World, v.Admits e := by
  induction p generalizing s with
  | done a => simp [doings]
  | perform e next ih =>
    exact List.forall_mem_cons.2 ⟨⟨_, World.admits_perform _ [] task _ e⟩, ih _ _⟩

/-- The trace of a process that runs alone tells its commands. -/
theorem accesses_run (task : Nat) (p : Proc α) (s : System) :
    (p.run task s).1.accesses = s.accesses ++ (p.doings task s).filterMap Event.access? := by
  induction p generalizing s with
  | done a => simp [doings, run]
  | perform e next ih =>
    rw [run, doings, ih, Effect.accesses_perform]
    rw [show System.accesses (System.wait _ _) = _ from Effect.accesses_issue task s e,
      List.append_assoc, ← List.filterMap_append]
    rfl

/-- What a process does that obeys a protocol is its own. -/
theorem Obeys.own_doings {S : Type} {P : Protocol S} {task : Nat} {ends : α → S → Prop}
    {p : Proc α} {stage : S} (hp : p.Obeys P task ends stage) {s : System} :
    ∀ e ∈ p.doings task s, e.effect.own := by
  induction p generalizing s stage with
  | done a => simp [doings]
  | perform e next ih =>
    obtain ⟨stage', step, rest⟩ := hp s.elapsed (e.issue task s).action _
    have own : e.own := P.own _ _ _ step
    exact List.forall_mem_cons.2 ⟨own, ih _ rest⟩

/-- The counters tell how often a process that runs alone counted each outcome. -/
theorem outcomes_run (task : Nat) (p : Proc α) {s : System}
    (own : ∀ e ∈ p.doings task s, e.effect.own) (o : AttemptOutcome) :
    (p.run task s).1.metrics.outcomes.count o.name = s.metrics.outcomes.count o.name
      + ((p.doings task s).filterMap Event.outcome?).count o := by
  induction p generalizing s with
  | done a => simp [doings, run]
  | perform e next ih =>
    rw [doings, List.forall_mem_cons] at own
    rw [run, doings, ih _ own.2, Effect.outcomes_perform _ _ _ _ own.1, Nat.add_assoc,
      ← List.count_append, ← List.filterMap_append]
    rw [show System.metrics (System.wait _ _) = _ from Effect.metrics_issue task s e]
    rfl

/-- What comes in the way of a process that runs alone is what waited to, or nothing, and so is what
    waits at its end. -/
theorem Obeys.tame_doings {S : Type} {P : Protocol S} {task : Nat} {ends : α → S → Prop}
    {ok : FaultAction → Prop} (perform : ok .perform) {p : Proc α} {stage : S}
    (hp : p.Obeys P task ends stage) {s : System} (tame : ∀ f ∈ s.faults, ok f.action) :
    (∀ e ∈ p.doings task s, ok e.action) ∧ ∀ f ∈ (p.run task s).1.faults, ok f.action := by
  induction p generalizing s stage with
  | done a => exact ⟨by simp [doings], tame⟩
  | perform e next ih =>
    let r : Regime α S := ⟨{}, fun _ => P, fun _ => ends, ok, stage⟩
    obtain ⟨action, issued⟩ := Regime.Tame.issue (r := r) perform tame task e
    have waited : r.Tame ((e.issue task s).system.wait (e.issue task s).delay) := issued
    obtain ⟨stage', step, rest⟩ := hp s.elapsed (e.issue task s).action _
    have own : e.own := P.own _ _ _ step
    obtain ⟨actions, left⟩ := ih _ rest (waited.perform task _ e own)
    exact ⟨List.forall_mem_cons.2 ⟨action, actions⟩, left⟩

theorem Obeys.actions_doings {S : Type} {P : Protocol S} {task : Nat} {ends : α → S → Prop}
    {ok : FaultAction → Prop} (perform : ok .perform) {p : Proc α} {stage : S}
    (hp : p.Obeys P task ends stage) {s : System} (tame : ∀ f ∈ s.faults, ok f.action) :
    ∀ e ∈ p.doings task s, ok e.action :=
  (hp.tame_doings perform tame).1

/-- No token is taken back. -/
theorem tokens_le_run (task : Nat) (p : Proc α) (s : System) :
    s.tokens ≤ (p.run task s).1.tokens := by
  induction p generalizing s with
  | done a => exact Nat.le_refl _
  | perform e next ih =>
    rw [run]
    refine Nat.le_trans ?_ (ih _ _)
    cases e with
    | freshToken => exact Nat.le_succ _
    | operate operation => cases operation <;> exact Nat.le_refl _
    | _ => exact Nat.le_refl _

end Proc

/-- One routine and then the next do in turn what they do alone, unless the first fails. -/
theorem Routine.doings_bind {α β : Type} (task : Nat) (r : Routine α) (f : α → Routine β)
    (s : System) :
    (r >>= f).run.doings task s = r.run.doings task s ++ match r.run.run task s with
      | (s', .ok a) => (f a).run.doings task s'
      | (_, .error _) => [] := by
  refine (Proc.doings_bind task r.run _ s).trans ?_
  cases r.run.run task s with
  | mk s' outcome => cases outcome <;> rfl

end Turnstile

import Turnstile.Proofs.Run.Doings
import Turnstile.Proofs.Run.History
import Turnstile.Proofs.Run.Protocol

set_option autoImplicit false

/-! # Prompt runs

Where no fault waits, a command takes effect the moment it is issued, and time passes only while a
task pauses or waits to start. So it is for a process that runs alone (`Proc.run_invariant`), and
for the schedule's own steps (`Schedule.run_prompt`). -/

namespace Turnstile

/-- The effect only lets time pass. -/
def Effect.idles : Effect → Bool
  | .pause _ | .wait _ => true
  | _ => false

theorem Effect.rest_of_not_idles {e : Effect} (idles : e.idles = false) : e.rest = 0 := by
  cases e with
  | pause | wait => cases idles
  | _ => rfl

section

variable {s : System} (none : s.faults = []) (task : Nat) (e : Effect)

include none

/-- Where no fault waits, nothing comes in the way of an effect that is issued, and it takes the
    time that it lets pass. -/
theorem Effect.issue_of_none : (e.issue task s).system.faults = []
    ∧ (e.issue task s).action = .perform ∧ (e.issue task s).delay = e.rest := by
  cases e with
  | command c => simp [issue, none, Fault.meet, rest]
  | _ => exact ⟨none, rfl, rfl⟩

theorem Effect.faults_perform (own : e.own) (action : FaultAction) :
    (e.perform task action s).1.faults = [] := by
  cases e with
  | operate operation =>
    cases operation with
    | keepHandle => exact none
    | _ => exact own.elim
  | _ => exact none

end

/-! ## A process alone -/

section

variable {α S : Type} {P : Protocol S} {task : Nat} {ends : α → S → Prop} {inv : World → S → Prop}
  (event : ∀ v stage e stage', inv v stage → v.Admits e → e.action = .perform →
    P.step stage e stage' → inv (v.add e) stage')
  (pass : ∀ v stage e stage' t, inv v stage → P.step stage e stage' → e.effect.idles →
    v.now ≤ t → inv (v.atTime t) stage)

include event pass

/-- **What a process keeps that runs alone.** Where no fault waits, a property of the world and the
    stage that every step keeps, and the time that passes in a pause or a wait, holds when the
    process ends, of a world that tells what the process did. -/
theorem Proc.doings_invariant {p : Proc α} {stage : S} (hp : p.Obeys P task ends stage) {s : System}
    (none : s.faults = []) {h : List Event} (hinv : inv (.of s h) stage) :
    ∃ stage', inv (.of (p.run task s).1 (h ++ p.doings task s)) stage'
      ∧ ends (p.run task s).2 stage' ∧ (p.run task s).1.faults = [] := by
  induction p generalizing s h stage with
  | done a =>
    rw [doings, List.append_nil]
    exact ⟨stage, hinv, hp, none⟩
  | perform e next ih =>
    obtain ⟨none', action, prompt⟩ := Effect.issue_of_none none task e
    rw [Proc.run, doings]
    generalize hs : (e.issue task s).system.wait (e.issue task s).delay = s'
    have later : s'.faults = [] := by rw [← hs]; exact none'
    -- The effect is performed now, or after a rest that the property survives.
    have hinv' : inv (.of s' h) stage := by
      have world : World.of s' h
          = (World.of s h).atTime (s.elapsed + max 0 (e.issue task s).delay) := by
        rw [← World.of_issue task s h e, ← hs, System.wait, Effect.issue_elapsed]
        rfl
      rw [world]
      cases idles : e.idles with
      | false =>
        rw [prompt, Effect.rest_of_not_idles idles, Int.max_self, Int.add_zero]
        exact hinv
      | true =>
        obtain ⟨stage', step, -⟩ := hp 0 .perform (e.perform task .perform s).2
        refine pass _ _ _ _ _ hinv step idles ?_
        show s.elapsed ≤ _
        omega
    rw [action]
    -- What the process does now is an event of the protocol.
    obtain ⟨stage', step, hn⟩ := hp s'.elapsed .perform (e.perform task .perform s').2
    have own : e.own := P.own _ _ _ step
    have added := event _ _ _ _ hinv' (World.admits_perform s' h task .perform e) rfl step
    rw [← World.of_perform _ _ _ _ _ own] at added
    obtain ⟨last, kept, rest⟩ := ih _ hn (Effect.faults_perform later task e own .perform) added
    rw [List.append_assoc] at kept
    exact ⟨last, kept, rest⟩

/-- So the property holds, whatever the process did. -/
theorem Proc.run_invariant {p : Proc α} {stage : S} (hp : p.Obeys P task ends stage) {s : System}
    (none : s.faults = []) {h : List Event} (hinv : inv (.of s h) stage) :
    ∃ stage' h', inv (.of (p.run task s).1 h') stage' ∧ ends (p.run task s).2 stage'
      ∧ (p.run task s).1.faults = [] := by
  obtain ⟨stage', kept⟩ := Proc.doings_invariant event pass hp none hinv
  exact ⟨stage', _, kept⟩

end

/-! ## The schedule's own steps -/

namespace Schedule

variable {α S : Type}

/-- Time passes only while no task waits for the answer to a command. -/
def prompt : Setting α where
  mayPass c t := t = c.system.elapsed ∨ ∀ w, .waiting w ∈ c.tasks → w.effect.idles

/-- No fault waits, no task waits for an instant that has passed, and one that is not at rest waits
    for the present. -/
structure Prompt (c : Schedule α) : Prop where
  none : c.system.faults = []
  wake : ∀ w, .waiting w ∈ c.tasks →
    c.system.elapsed ≤ w.wake ∧ (w.effect.idles = false → w.wake = c.system.elapsed)

/-- A task that runs up to its next wait does so promptly, and then waits as long as is to pass. -/
theorem toWait_prompt {P : Protocol S} {task : Nat} {ends : α → S → Prop} (turn : Nat) {p : Proc α}
    {stage : S} (hp : p.Obeys P task ends stage) {s : System} (none : s.faults = []) :
    (p.toWait task turn s).1.faults = []
      ∧ ∀ w, (p.toWait task turn s).2 = .waiting w → w.wake = s.elapsed + max 0 w.effect.rest := by
  induction p generalizing s stage with
  | done a =>
    refine ⟨none, fun w h => ?_⟩
    cases h
  | perform e next ih =>
    obtain ⟨none', -, prompt⟩ := Effect.issue_of_none none task e
    rw [Proc.toWait]
    by_cases hw : e.waits = true
    · rw [if_pos hw]
      refine ⟨none', ?_⟩
      rintro w ⟨⟩
      show (e.issue task s).system.elapsed + max 0 (e.issue task s).delay = _
      rw [Effect.issue_elapsed, prompt]
    · rw [if_neg hw]
      obtain ⟨stage', step, hn⟩ := hp 0 .perform
        (e.perform task (e.issue task s).action (e.issue task s).system).2
      have own : e.own := P.own _ _ _ step
      obtain ⟨faults, wake⟩ :=
        ih _ hn (Effect.faults_perform none' task e own (e.issue task s).action)
      rw [Effect.perform_elapsed, Effect.issue_elapsed] at wake
      exact ⟨faults, wake⟩

/-- A schedule's own step is prompt again, and the task waits from then on as long as is to pass. -/
theorem Prompt.wake_first {r : Regime α S} {c : Schedule α} (prompt : c.Prompt) {stages : Nat → S}
    (rest : r.AtRest c stages) {i : Nat} {w : Waiting α}
    (first : Task.first? c.tasks = some (i, w)) : (c.wake i w).Prompt
      ∧ ∀ v, (c.wake i w).tasks[i]? = some (.waiting v) →
        v.wake = w.wake + max 0 v.effect.rest := by
  have waiting := Task.getElem?_of_first? first
  obtain ⟨-, -, obeys⟩ := rest.1 i _ waiting
  obtain ⟨stage, step, hn⟩ := obeys w.wake w.action
    (w.effect.perform i w.action { c.system with elapsed := w.wake }).2
  have own : w.effect.own := (r.protocol i).own _ _ _ step
  have none : (w.effect.perform i w.action { c.system with elapsed := w.wake }).1.faults = [] :=
    Effect.faults_perform (s := { c.system with elapsed := w.wake }) prompt.none i w.effect own
      w.action
  obtain ⟨faults, wakes⟩ := toWait_prompt c.turns hn none
  rw [Effect.perform_elapsed] at wakes
  have elapsed : (c.wake i w).system.elapsed = w.wake := by
    rw [Schedule.wake, Proc.elapsed_toWait, Effect.perform_elapsed]
  refine ⟨⟨faults, fun v hv => ?_⟩, fun v hv => ?_⟩
  show (c.wake i w).system.elapsed ≤ v.wake ∧ (_ → v.wake = (c.wake i w).system.elapsed)
  rw [elapsed]
  rcases List.mem_or_eq_of_mem_set hv with hv | hv
  · obtain ⟨-, here⟩ := prompt.wake v hv
    have order := Task.first?_wake_le first hv
    have := (prompt.wake w (List.mem_of_getElem? waiting)).1
    refine ⟨order, fun idles => ?_⟩
    have := here idles
    omega
  · have wake : v.wake = w.wake + max 0 v.effect.rest := wakes v hv.symm
    refine ⟨by omega, fun idles => ?_⟩
    rw [wake, Effect.rest_of_not_idles idles, Int.max_self, Int.add_zero]
  · rw [Schedule.wake, List.getElem?_set_self (List.getElem?_eq_some_iff.1 waiting).1,
      Option.some.injEq] at hv
    exact wakes v hv

/-- A schedule's own step is an instant to which a prompt run may let time pass. -/
theorem Prompt.may_first {c : Schedule α} (prompt : c.Prompt) {i : Nat} {w : Waiting α}
    (first : Task.first? c.tasks = some (i, w)) :
    c.system.elapsed ≤ w.wake ∧ Schedule.prompt.mayPass c w.wake := by
  have later := (prompt.wake w (List.mem_of_getElem? (Task.getElem?_of_first? first))).1
  refine ⟨later, ?_⟩
  by_cases now : w.wake = c.system.elapsed
  · exact .inl now
  · -- Some other task that waits for a command would come first.
    refine .inr fun v hv => ?_
    cases idles : v.effect.idles with
    | true => rfl
    | false =>
      have order := Task.first?_wake_le first hv
      have here := (prompt.wake v hv).2 idles
      omega

/-- All tasks rest after a step of the schedule, if they do so before. -/
theorem Prompt.atRest_first {r : Regime α S} (setting : r.setting = Schedule.prompt)
    (perform : r.actions .perform) {c : Schedule α} {stages : Nat → S} (prompt : c.Prompt)
    (rest : r.AtRest c stages) {i : Nat} {w : Waiting α}
    (first : Task.first? c.tasks = some (i, w)) : ∃ stages, r.AtRest (c.wake i w) stages := by
  have keeps : r.Keeps fun _ _ => True := by
    refine ⟨perform, fun _ _ _ _ _ _ _ _ => trivial, fun _ _ _ _ _ _ _ _ => trivial, ?_⟩
    intro s s' h stages _ _ change
    rw [setting] at change
    exact change.elim
  obtain ⟨later, may⟩ := prompt.may_first first
  rw [← setting] at may
  have run : Run r.setting c _ (c.wake i w) :=
    .wake .start (Task.getElem?_of_first? first) later may
  have tame : r.Tame c.system := by
    intro f hf
    rw [prompt.none] at hf
    cases hf
  obtain ⟨stages', -, rest', -⟩ := run.invariant keeps trivial rest tame
  exact ⟨stages', rest'⟩

/-- What was done came as soon as it could, and every task waits for the instant at which what it
    does next can come. -/
structure InTime (starts : Nat → Int) (h : List Event) (c : Schedule α) : Prop where
  each : Each (Punctual starts) h
  wake : ∀ i w, c.tasks[i]? = some (.waiting w) → w.wake = due starts h i w.effect

/-- A schedule's own step is in time. -/
theorem InTime.wake_first {starts : Nat → Int} {h : List Event} {c : Schedule α}
    (inTime : InTime starts h c) {i : Nat} {w : Waiting α}
    (first : Task.first? c.tasks = some (i, w))
    (wakes : ∀ v, (c.wake i w).tasks[i]? = some (.waiting v) →
      v.wake = w.wake + max 0 v.effect.rest) :
    InTime starts (h ++ c.events i w) (c.wake i w) := by
  have waiting := Task.getElem?_of_first? first
  generalize performed : w.effect.perform i w.action { c.system with elapsed := w.wake } = p
  have time : p.1.elapsed = w.wake := by
    rw [← performed, Effect.perform_elapsed]
  have events : c.events i w
      = ⟨w.wake, i, w.effect, w.action, p.2⟩ :: (w.next p.2).events i p.1 := by
    rw [← performed, Schedule.events]
  -- The effect that was waited for comes when it is due, and the rest at once.
  have woken : Each (Punctual starts) (h ++ [⟨w.wake, i, w.effect, w.action, p.2⟩]) :=
    inTime.each.snoc (inTime.wake i w waiting)
  obtain ⟨each, last⟩ := woken.quick (i := i) (t := w.wake)
    (k := (w.next p.2).events i p.1) (by rw [lastTime?_snoc, if_pos rfl]) fun e he => by
      obtain ⟨task, now, waits⟩ := Proc.quick_of_mem_events he
      exact ⟨task, now.trans time, waits⟩
  rw [List.append_assoc, List.singleton_append, ← events] at each last
  refine ⟨each, fun j v hv => ?_⟩
  by_cases own : j = i
  · subst own
    rw [wakes v hv, due, last]
    rfl
  · have others : ∀ e ∈ c.events i w, e.task ≠ j := by
      intro e he
      rw [events] at he
      rcases List.mem_cons.1 he with rfl | he
      · exact Ne.symm own
      · rw [Proc.task_of_mem_events he]
        exact Ne.symm own
    rw [due, lastTime?_append_of_ne others]
    refine inTime.wake j v ?_
    rwa [Schedule.wake, List.getElem?_set_ne (Ne.symm own)] at hv

/-- From a prompt schedule whose tasks rest, the schedule's own steps are a prompt run, and if the
    tasks wait for given instants, all that they do from then on comes as soon as it can. -/
theorem run_prompt {r : Regime α S} (setting : r.setting = prompt) (perform : r.actions .perform)
    {c : Schedule α} {stages : Nat → S} (rest : r.AtRest c stages) (hc : c.Prompt)
    {starts : Nat → Int} (begin : ∀ i w, c.tasks[i]? = some (.waiting w) → w.wake = starts i) :
    ∃ history, Run prompt c history c.run ∧ Each (Punctual starts) history := by
  obtain ⟨history, run, -, -, inTime⟩ := run_of_steps
    (P := fun h c => c.Prompt ∧ (∃ stages, r.AtRest c stages) ∧ InTime starts h c)
    (by
      rintro h c i w ⟨hc, ⟨stages, rest⟩, inTime⟩ first
      obtain ⟨hc', wakes⟩ := hc.wake_first rest first
      exact ⟨hc', hc.atRest_first setting perform rest first, inTime.wake_first first wakes⟩)
    (fun h c i w inv first => inv.1.may_first first) (h := []) c
    ⟨hc, ⟨stages, rest⟩, .nil _, begin⟩
  exact ⟨history, run, inTime.each⟩

/-! ## The start -/

/-- Until the first task wakes it does not matter what time it is. -/
theorem run_elapsed {c : Schedule α} {m : Int} (h : c.step? = none → m = c.system.elapsed) :
    ({ c with system := { c.system with elapsed := m } } : Schedule α).run = c.run := by
  cases hs : c.step? with
  | none => rw [h hs]
  | some d =>
    rw [run_of_step?_eq_some hs]
    exact run_of_step?_eq_some hs

/-- Some item of a list is the smallest; `x` stands in where there is none. -/
theorem exists_least (xs : List Int) (x : Int) :
    ∃ m, (∀ y ∈ xs, m ≤ y) ∧ (m ∈ xs ∨ xs = [] ∧ m = x) := by
  induction xs with
  | nil => exact ⟨x, by simp, .inr ⟨rfl, rfl⟩⟩
  | cons y rest ih =>
    obtain ⟨m, hm, least⟩ := ih
    rcases least with among | ⟨rfl, rfl⟩
    · refine ⟨min y m, fun z hz => ?_, .inl ?_⟩
      · rcases List.mem_cons.1 hz with rfl | hz
        · exact Int.min_le_left _ _
        · exact Int.le_trans (Int.min_le_right _ _) (hm z hz)
      · rcases Int.le_total y m with le | le
        · rw [Int.min_eq_left le]
          exact List.mem_cons_self
        · rw [Int.min_eq_right le]
          exact List.mem_cons_of_mem y among
    · exact ⟨y, by simp, .inl List.mem_cons_self⟩

/-- Processes that start after delays, be they negative, start promptly at the instant at which the
    first of them starts. -/
theorem exists_prompt_start (processes : List (Int × Proc α)) {s : System} (none : s.faults = []) :
    ∃ m, (m = s.elapsed ∨ ∃ p ∈ processes, m = s.elapsed + p.1)
      ∧ ({ start processes s with system := { s with elapsed := m } } : Schedule α).Prompt
      ∧ ({ start processes s with system := { s with elapsed := m } } : Schedule α).run
        = (start processes s).run := by
  obtain ⟨m, hm, least⟩ := exists_least (processes.map fun p => s.elapsed + p.1) s.elapsed
  refine ⟨m, ?_, ⟨none, fun w hw => ?_⟩, run_elapsed fun h => ?_⟩
  · rcases least with among | ⟨-, same⟩
    · obtain ⟨p, hp, same⟩ := List.mem_map.1 among
      exact .inr ⟨p, hp, same.symm⟩
    · exact .inl same
  · obtain ⟨i, hi, hw⟩ := List.mem_mapIdx.1 hw
    cases hw
    refine ⟨hm _ (List.mem_map.2 ⟨processes[i], List.getElem_mem hi, rfl⟩), fun idles => ?_⟩
    cases idles
  · cases processes with
    | nil =>
      rcases least with among | ⟨-, same⟩
      · cases among
      · exact same
    | cons p rest =>
      have waits : .waiting ⟨s.elapsed + p.1, 0, .wait p.1, .perform, fun _ => p.2⟩
          ∈ (start (p :: rest) s).tasks := List.mem_mapIdx.2 ⟨0, Nat.succ_pos _, rfl⟩
      exact absurd waits (not_waiting_of_step?_eq_none h _)

/-- **A prompt run from the start.** Processes that start after delays run promptly from the instant
    at which the first of them starts, and all that they do comes as soon as it can. -/
theorem exists_prompt_run {r : Regime α S} (setting : r.setting = prompt)
    (perform : r.actions .perform) {processes : List (Int × Proc α)} {s : System} {stages : Nat → S}
    (rest : r.AtRest (start processes s) stages) (none : s.faults = []) :
    ∃ m history, (m = s.elapsed ∨ ∃ p ∈ processes, m = s.elapsed + p.1)
      ∧ Run prompt { start processes s with system := { s with elapsed := m } } history
          (start processes s).run
      ∧ Each (Punctual fun i => s.elapsed + ((processes[i]?).map Prod.fst).getD 0) history := by
  obtain ⟨m, start, prompt, same⟩ := exists_prompt_start processes none
  have begin : ∀ (i : Nat) (w : Waiting α),
      (Schedule.start processes s).tasks[i]? = some (.waiting w) →
        w.wake = s.elapsed + ((processes[i]?).map Prod.fst).getD 0 := by
    intro i w hw
    obtain ⟨p, hp, waits⟩ : ∃ p, processes[i]? = some p
        ∧ Task.waiting ⟨s.elapsed + p.1, i, .wait p.1, .perform, fun _ => p.2⟩ = .waiting w := by
      simpa [Schedule.start, List.getElem?_mapIdx] using hw
    cases waits
    rw [hp]
    rfl
  have rest' : r.AtRest { Schedule.start processes s with system := { s with elapsed := m } }
      stages := ⟨rest.1, rest.2⟩
  obtain ⟨history, run, each⟩ := run_prompt setting perform rest' prompt begin
  rw [same] at run
  exact ⟨m, history, start, run, each⟩

/-- Where no step is left every task has ended as it should. -/
theorem atRest_ended {r : Regime α S} {c : Schedule α} {stages : Nat → S}
    (rest : r.AtRest c stages) (finished : c.step? = none) {i : Nat} (lt : i < c.tasks.length) :
    ∃ result, c.results[i]? = some result ∧ r.ends i result (stages i) := by
  have waitless := not_waiting_of_step?_eq_none finished
  have there := List.getElem?_eq_getElem lt
  cases ht : c.tasks[i] with
  | waiting w => exact absurd (ht ▸ List.getElem_mem lt) (waitless w)
  | ended result =>
    rw [ht] at there
    refine ⟨result, ?_, rest.1 i _ there⟩
    rw [getElem?_results waitless, there]
    rfl

end Schedule

end Turnstile

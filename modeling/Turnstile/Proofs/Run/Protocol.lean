import Mathlib.Logic.Function.Basic
import Turnstile.Proofs.Run.Basic

set_option autoImplicit false

/-! # Protocols

A protocol says what a task may do next, by the stage that it has reached, and which stage it then
reaches. That a process obeys one is a matter of the process alone: it has to do so whatever it is
answered (`Proc.Obeys`). What holds of the worlds that a run leads through is then shown one event
at a time (`Schedule.Run.invariant`): an event that the protocol and the world admit, the passing of
time while every task waits, and a change from outside. -/

namespace Turnstile

/-- The effect is one of a task's own, and none of the operator's but to keep a handle. -/
def Effect.own : Effect → Prop
  | .operate (.keepHandle ..) => True
  | .operate _ => False
  | _ => True

/-- An effect that takes time may be answered. -/
theorem Effect.nonempty_of_waits {e : Effect} (waits : e.waits) : Nonempty e.Answer := by
  cases e with
  | command c => exact ⟨.ok .null⟩
  | pause ms | wait ms => exact ⟨()⟩
  | _ => cases waits

/-! ## Worlds -/

/-- What the tasks can tell of a system, and what they did so far. -/
structure World where
  epoch : Int
  now : Int
  store : Store
  tokens : Nat
  skews : List Int
  history : List Event

namespace World

/-- The world of a system. -/
def of (s : System) (history : List Event) : World :=
  ⟨s.epoch, s.elapsed, s.store, s.tokens, s.skews, history⟩

/-- The reading of a clock. -/
def read (v : World) : Clock → Except Failure Int
  | .skewed index => .ok (v.epoch + v.now + v.skews.getD index 0)
  | .system => (systemMillis (v.epoch + v.now)).mapError .noTime

/-- What the world answers to an effect. -/
def Answers (v : World) (action : FaultAction) : (e : Effect) → e.Answer → Prop
  | .command c, answer => answer = (action.apply v.now v.store c).2
  | .clock source, answer => answer = v.read source
  | .monotonic, answer => answer = (clockSeconds v.now).mapError .noTime
  | .freshToken, n => n = v.tokens + 1
  | _, _ => True

/-- The event may take place now. -/
structure Admits (v : World) (e : Event) : Prop where
  time : e.time = v.now
  answer : v.Answers e.action e.effect e.answer

section Monotonic

variable {v : World} {time : Int} {task : Nat} {action : FaultAction}

/-- A reading of the monotonic clock is what it shows then. -/
theorem Admits.clockSeconds_eq {x : Binary64}
    (admits : v.Admits ⟨time, task, .monotonic, action, .ok x⟩) : clockSeconds time = .ok x := by
  have now : time = v.now := admits.time
  have answer : Except.ok x = (clockSeconds v.now).mapError Failure.noTime := admits.answer
  rw [now]
  cases h : clockSeconds v.now with
  | ok y =>
    rw [h] at answer
    cases answer
    rfl
  | error reason =>
    rw [h] at answer
    cases answer

/-- Where the monotonic clock can be read, it shows the seconds. -/
theorem Admits.reading_eq {x : Except Failure Binary64}
    (admits : v.Admits ⟨time, task, .monotonic, action, x⟩) (readable : MonotonicReadable time) :
    x = .ok (seconds time) := by
  have now : time = v.now := admits.time
  have answer : x = (clockSeconds v.now).mapError .noTime := admits.answer
  rw [answer, ← now, readable.clockSeconds_eq]
  rfl

/-- Where it cannot, the reading fails for want of time. -/
theorem Admits.reading_error {f : Failure}
    (admits : v.Admits ⟨time, task, .monotonic, action, .error f⟩) :
    ∃ reason, f = .noTime reason := by
  have answer : Except.error f = (clockSeconds v.now).mapError Failure.noTime := admits.answer
  cases h : clockSeconds v.now with
  | ok y =>
    rw [h] at answer
    cases answer
  | error reason =>
    rw [h] at answer
    cases answer
    exact ⟨reason, rfl⟩

end Monotonic

/-- The world after an event of a task's own. -/
def add (v : World) (e : Event) : World :=
  { v with
    store := match e.effect with
      | .command c => (e.action.apply v.now v.store c).1
      | _ => v.store
    tokens := match e.effect with
      | .freshToken => v.tokens + 1
      | _ => v.tokens
    history := v.history ++ [e] }

/-- The world at a later instant. -/
def atTime (v : World) (t : Int) : World := { v with now := t }

@[simp] theorem add_now (v : World) (e : Event) : (v.add e).now = v.now := rfl

@[simp] theorem add_history (v : World) (e : Event) : (v.add e).history = v.history ++ [e] := rfl

/-- No token is taken back. -/
theorem tokens_le_add (v : World) (e : Event) : v.tokens ≤ (v.add e).tokens := by
  obtain ⟨time, task, effect, action, answer⟩ := e
  cases effect with
  | freshToken => exact Nat.le_succ _
  | _ => exact Nat.le_refl _

@[simp] theorem atTime_now (v : World) (t : Int) : (v.atTime t).now = t := rfl

@[simp] theorem atTime_store (v : World) (t : Int) : (v.atTime t).store = v.store := rfl

@[simp] theorem atTime_history (v : World) (t : Int) : (v.atTime t).history = v.history := rfl

theorem of_issue (task : Nat) (s : System) (h : List Event) (e : Effect) :
    of (e.issue task s).system h = of s h := by
  cases e <;> rfl

theorem of_wait (s : System) (h : List Event) (t : Int) :
    of { s with elapsed := t } h = (of s h).atTime t := rfl

/-- What a task does is an event that the world admits. -/
theorem admits_perform (s : System) (h : List Event) (task : Nat) (action : FaultAction)
    (e : Effect) :
    (of s h).Admits ⟨s.elapsed, task, e, action, (e.perform task action s).2⟩ := by
  refine ⟨rfl, ?_⟩
  cases e with
  | clock source => cases source <;> rfl
  | _ => first | rfl | trivial

/-- The world after what a task does is the world with that event. -/
theorem of_perform (s : System) (h : List Event) (task : Nat) (action : FaultAction) (e : Effect)
    (own : e.own) :
    of (e.perform task action s).1
        (h ++ [⟨s.elapsed, task, e, action, (e.perform task action s).2⟩])
      = (of s h).add ⟨s.elapsed, task, e, action, (e.perform task action s).2⟩ := by
  cases e with
  | operate operation =>
    cases operation with
    | keepHandle => rfl
    | _ => exact own.elim
  | _ => rfl

end World

/-! ## Obeying a protocol -/

/-- What a task may do at each stage, and the stage it then reaches. Operations are left to others.
    -/
structure Protocol (S : Type) where
  step : S → Event → S → Prop
  own : ∀ stage e stage', step stage e stage' → e.effect.own

/-- From a stage on, whatever it is answered, the process of a task only does what the protocol
    allows, and it ends as `ends` says. -/
def Proc.Obeys {α S : Type} (P : Protocol S) (task : Nat) (ends : α → S → Prop) :
    Proc α → S → Prop
  | .done a, stage => ends a stage
  | .perform e next, stage => ∀ time action answer,
    ∃ stage', P.step stage ⟨time, task, e, action, answer⟩ stage'
      ∧ (next answer).Obeys P task ends stage'

namespace Proc

variable {α β S : Type} {P : Protocol S} {task : Nat}

theorem Obeys.mono {ends ends' : α → S → Prop} (h : ∀ a stage, ends a stage → ends' a stage)
    {p : Proc α} {stage : S} (hp : p.Obeys P task ends stage) : p.Obeys P task ends' stage := by
  induction p generalizing stage with
  | done a => exact h a stage hp
  | perform e next ih =>
    intro time action answer
    obtain ⟨stage', hs, hn⟩ := hp time action answer
    exact ⟨stage', hs, ih answer hn⟩

/-- One process after the other obeys when the second obeys from wherever the first ends. -/
theorem Obeys.bind (mid : α → S → Prop) {ends : β → S → Prop} {p : Proc α} {f : α → Proc β}
    {stage : S} (hp : p.Obeys P task mid stage)
    (hf : ∀ a stage', mid a stage' → (f a).Obeys P task ends stage') :
    (p.bind f).Obeys P task ends stage := by
  induction p generalizing stage with
  | done a => exact hf a stage hp
  | perform e next ih =>
    intro time action answer
    obtain ⟨stage', hs, hn⟩ := hp time action answer
    exact ⟨stage', hs, ih answer hn⟩

/-- A process that obeys one protocol obeys another that simulates it. -/
theorem Obeys.simulate {T : Type} {Q : Protocol T} (sim : S → T → Prop)
    (step : ∀ stage stage' stage₂ e, sim stage stage₂ → P.step stage e stage' →
      ∃ stage₂', Q.step stage₂ e stage₂' ∧ sim stage' stage₂')
    {ends : α → S → Prop} {p : Proc α} {stage : S} {stage₂ : T} (hp : p.Obeys P task ends stage)
    (related : sim stage stage₂) :
    p.Obeys Q task (fun a stage₂ => ∃ stage, sim stage stage₂ ∧ ends a stage) stage₂ := by
  induction p generalizing stage stage₂ with
  | done a => exact ⟨stage, related, hp⟩
  | perform e next ih =>
    intro time action answer
    obtain ⟨stage', hs, hn⟩ := hp time action answer
    obtain ⟨stage₂', hs₂, related'⟩ := step _ _ _ _ related hs
    exact ⟨stage₂', hs₂, ih answer hn related'⟩

end Proc

/-! ## Runs under protocols -/

/-- What is asked of a run: its setting, the protocol of each task and how the task ends, what may
    come in the way of commands, and the stage of a number that is no task's. -/
structure Regime (α S : Type) where
  setting : Setting α := {}
  protocol : Nat → Protocol S
  ends : Nat → α → S → Prop
  actions : FaultAction → Prop
  vacant : S

namespace Regime

variable {α S : Type} (r : Regime α S)

/-- A task that has ended as it should, or waits and will obey its protocol. -/
def Rests (i : Nat) (stage : S) : Task α → Prop
  | .ended a => r.ends i a stage
  | .waiting w => w.effect.waits ∧ r.actions w.action
      ∧ (Proc.perform w.effect w.next).Obeys (r.protocol i) i (r.ends i) stage

/-- All tasks of a schedule rest, each at its stage. -/
def AtRest (c : Schedule α) (stages : Nat → S) : Prop :=
  (∀ i t, c.tasks[i]? = some t → r.Rests i (stages i) t)
    ∧ ∀ i, c.tasks[i]? = none → stages i = r.vacant

/-- What waits to come in the way of commands is what may. -/
def Tame (s : System) : Prop := ∀ f ∈ s.faults, r.actions f.action

/-- What a property of worlds and stages has to satisfy to hold throughout a run. -/
structure Keeps (inv : World → (Nat → S) → Prop) : Prop where
  perform : r.actions .perform
  event : ∀ v stages e stage, inv v stages → v.Admits e → r.actions e.action →
    (r.protocol e.task).step (stages e.task) e stage →
    inv (v.add e) (Function.update stages e.task stage)
  pass : ∀ (c : Schedule α) h stages t, inv (.of c.system h) stages → r.AtRest c stages →
    c.system.elapsed ≤ t → r.setting.mayPass c t → inv ((World.of c.system h).atTime t) stages
  outside : ∀ s s' h stages, inv (.of s h) stages → r.Tame s → r.setting.outside s s' →
    inv (.of s' h) stages ∧ r.Tame s'

end Regime

/-- The fault that a command meets is one of those that waited, or none at all. -/
theorem Fault.meet_actions {ok : FaultAction → Prop} (hp : ok .perform) (c : Command)
    {faults : List Fault} (hf : ∀ f ∈ faults, ok f.action) :
    ok ((meet c faults).1.getD { kind := c.kind }).action
      ∧ ∀ f ∈ (meet c faults).2, ok f.action := by
  induction faults with
  | nil => exact ⟨hp, by simp [meet]⟩
  | cons f rest ih =>
    have hf' : ok f.action := hf f (by simp)
    have hr : ∀ g ∈ rest, ok g.action := fun g hg => hf g (by simp [hg])
    obtain ⟨ih₁, ih₂⟩ := ih hr
    simp only [meet]
    split
    · refine ⟨ih₁, fun g hg => ?_⟩
      rcases List.mem_cons.1 hg with rfl | hg
      · exact hf'
      · exact ih₂ g hg
    · split
      · refine ⟨hp, fun g hg => ?_⟩
        rcases List.mem_cons.1 hg with rfl | hg
        · exact hf'
        · exact hr g hg
      · split
        · exact ⟨hf', hr⟩
        · refine ⟨hf', fun g hg => ?_⟩
          rcases List.mem_cons.1 hg with rfl | hg
          · exact hf'
          · exact hr g hg

namespace Regime

variable {α S : Type} {r : Regime α S}

theorem Tame.issue (hp : r.actions .perform) {s : System} (hs : r.Tame s) (task : Nat)
    (e : Effect) : r.actions (e.issue task s).action ∧ r.Tame (e.issue task s).system := by
  cases e with
  | command c => exact Fault.meet_actions hp c hs
  | _ => exact ⟨hp, hs⟩

theorem Tame.perform {s : System} (hs : r.Tame s) (task : Nat) (action : FaultAction) (e : Effect)
    (own : e.own) : r.Tame (e.perform task action s).1 := by
  cases e with
  | operate operation =>
    cases operation with
    | keepHandle => exact hs
    | _ => exact own.elim
  | _ => exact hs

/-- Up to its next wait a task obeys its protocol and keeps what holds. -/
theorem Keeps.toWait {inv : World → (Nat → S) → Prop} (keeps : r.Keeps inv) {i : Nat} (turn : Nat)
    {p : Proc α} {s : System} {h : List Event} {stages : Nat → S}
    (hp : p.Obeys (r.protocol i) i (r.ends i) (stages i)) (hi : inv (.of s h) stages)
    (tame : r.Tame s) :
    ∃ stage, inv (.of (p.toWait i turn s).1 (h ++ p.events i s)) (Function.update stages i stage)
      ∧ r.Tame (p.toWait i turn s).1 ∧ r.Rests i stage (p.toWait i turn s).2 := by
  induction p generalizing s h stages with
  | done a =>
    refine ⟨stages i, ?_, tame, hp⟩
    rw [Function.update_eq_self, Proc.events, List.append_nil]
    exact hi
  | perform e next ih =>
    have issued := tame.issue keeps.perform i e
    simp only [Proc.toWait, Proc.events]
    by_cases hw : e.waits = true
    · -- The task comes to rest before an effect that it still has to perform.
      simp only [hw, if_true]
      refine ⟨stages i, ?_, issued.2, hw, issued.1, hp⟩
      rw [Function.update_eq_self, List.append_nil, World.of_issue]
      exact hi
    · simp only [hw]
      obtain ⟨stage, hs, hn⟩ := hp _ (e.issue i s).action
        (e.perform i (e.issue i s).action (e.issue i s).system).2
      have own : e.own := (r.protocol i).own _ _ _ hs
      have hi' : inv (.of (e.issue i s).system h) stages := by rw [World.of_issue]; exact hi
      have step := keeps.event _ stages _ stage hi'
        (World.admits_perform _ h i (e.issue i s).action e) issued.1 hs
      rw [← World.of_perform _ _ _ _ _ own] at step
      have hn' : (next (e.perform i (e.issue i s).action (e.issue i s).system).2).Obeys
          (r.protocol i) i (r.ends i) (Function.update stages i stage i) := by
        rw [Function.update_self]
        exact hn
      obtain ⟨stage', hinv, htame, hrest⟩ :=
        ih _ hn' step (issued.2.perform i (e.issue i s).action e own)
      refine ⟨stage', ?_, htame, hrest⟩
      rw [Function.update_idem, List.append_assoc] at hinv
      exact hinv

end Regime

/-- **What a run keeps.** From a schedule whose tasks rest at their stages, a property that every
    admitted event, the passing of time and the surroundings keep holds wherever a run leads, and
    there the tasks rest again. -/
theorem Schedule.Run.invariant {α S : Type} {r : Regime α S} {inv : World → (Nat → S) → Prop}
    (keeps : r.Keeps inv) {c d : Schedule α} {h : List Event} (run : Run r.setting c h d)
    {stages : Nat → S} (hinv : inv (.of c.system []) stages) (rest : r.AtRest c stages)
    (tame : r.Tame c.system) :
    ∃ stages', inv (.of d.system h) stages' ∧ r.AtRest d stages' ∧ r.Tame d.system := by
  -- Each turn is three steps: time passes, the effect that was waited for takes place, and the task
  -- goes on up to its next wait.
  induction run with
  | start => exact ⟨stages, hinv, rest, tame⟩
  | @wake h d run i w waiting t later may ih =>
    obtain ⟨stages, hinv, rest, tame⟩ := ih
    obtain ⟨hw, ha, hp⟩ := rest.1 i _ waiting
    have hpass := keeps.pass d h stages t hinv rest later may
    obtain ⟨stage, hs, hn⟩ := hp t w.action
      (w.effect.perform i w.action { d.system with elapsed := t }).2
    have own : w.effect.own := (r.protocol i).own _ _ _ hs
    have step := keeps.event _ stages _ stage hpass
      (World.admits_perform { d.system with elapsed := t } h i w.action w.effect) ha hs
    rw [← World.of_wait, ← World.of_perform _ _ _ _ _ own] at step
    have hn' := hn
    rw [← Function.update_self i stage stages] at hn'
    have tame' : r.Tame { d.system with elapsed := t } := tame
    obtain ⟨stage', hinv', htame, hrest⟩ :=
      keeps.toWait d.turns hn' step (tame'.perform i w.action w.effect own)
    refine ⟨Function.update stages i stage', ?_, ?_, htame⟩
    · rw [Function.update_idem, List.append_assoc] at hinv'
      exact hinv'
    · have hlt : i < d.tasks.length := (List.getElem?_eq_some_iff.1 waiting).1
      constructor
      · intro j u hj
        by_cases hij : j = i
        · subst hij
          simp only [Schedule.wake, List.getElem?_set_self hlt, Option.some.injEq] at hj
          rw [Function.update_self, ← hj]
          exact hrest
        · simp only [Schedule.wake, List.getElem?_set_ne (Ne.symm hij)] at hj
          rw [Function.update_of_ne hij]
          exact rest.1 j u hj
      · intro j hj
        simp only [Schedule.wake, List.getElem?_eq_none_iff, List.length_set] at hj
        have hij : j ≠ i := by omega
        rw [Function.update_of_ne hij]
        exact rest.2 j (List.getElem?_eq_none_iff.2 hj)
  | outside run change ih =>
    obtain ⟨stages, hinv, rest, tame⟩ := ih
    obtain ⟨hinv', tame'⟩ := keeps.outside _ _ _ _ hinv tame change
    exact ⟨stages, hinv', rest, tame'⟩

end Turnstile

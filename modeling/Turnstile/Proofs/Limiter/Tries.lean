import Mathlib.Algebra.BigOperators.Group.Finset.Piecewise
import Turnstile.Proofs.Limiter.Linearizable
import Turnstile.Proofs.Limiter.Progress

set_option autoImplicit false

/-! # When tries are made

In a run in which all comes as soon as it can, a record call acts only at the instants that lie
whole pauses after its start. At each of those before it acquires its lock a try is refused, and a
call that gives up was refused at all of them (`Tried`). -/

namespace Turnstile

/-! ## What is counted -/

/-- The outcomes that a task has counted. -/
def outcomesOf (h : List Event) (i : Nat) : List AttemptOutcome :=
  (h.filter (·.task = i)).filterMap Event.outcome?

theorem outcomesOf_snoc (h : List Event) (e : Event) :
    outcomesOf (h ++ [e]) e.task = outcomesOf h e.task ++ e.outcome?.toList := by
  rw [outcomesOf, List.filter_append, List.filterMap_append, outcomesOf]
  cases outcome : e.outcome? <;> simp [outcome]

theorem outcomesOf_snoc_of_ne {i : Nat} (h : List Event) {e : Event} (other : e.task ≠ i) :
    outcomesOf (h ++ [e]) i = outcomesOf h i := by
  simp [outcomesOf, other]

theorem outcomesOf_of_none {h : List Event} {i : Nat} (none : ∀ e ∈ h, e.task ≠ i) :
    outcomesOf h i = [] := by
  rw [outcomesOf, List.filter_eq_nil_iff.2 (by simpa using none)]
  rfl

/-- The outcomes that were counted are those that the tasks have counted. -/
theorem count_outcomes {h : List Event} {n : Nat} (tasks : ∀ e ∈ h, e.task < n)
    (o : AttemptOutcome) :
    (h.filterMap Event.outcome?).count o = ∑ i ∈ Finset.range n, (outcomesOf h i).count o := by
  induction h using List.reverseRecOn with
  | nil => simp [outcomesOf]
  | append_singleton h e ih =>
    have split : ∀ i, (outcomesOf (h ++ [e]) i).count o = (outcomesOf h i).count o
        + if e.task = i then e.outcome?.toList.count o else 0 := by
      intro i
      by_cases mine : e.task = i
      · subst mine
        rw [outcomesOf_snoc, List.count_append, if_pos rfl]
      · rw [outcomesOf_snoc_of_ne h mine, if_neg mine]
        rfl
    have last : [e].filterMap Event.outcome? = e.outcome?.toList := by
      cases outcome : e.outcome? <;> simp [outcome]
    rw [List.filterMap_append, List.count_append, ih fun x hx => tasks x (by simp [hx]), last,
      Finset.sum_congr rfl fun i _ => split i, Finset.sum_add_distrib, Finset.sum_ite_eq,
      if_pos (Finset.mem_range.2 (tasks e (by simp)))]

/-! ## Refusals -/

/-- A try of a task for its lock was refused at an instant. -/
def RefusedAt (lock : String) (h : List Event) (i : Nat) (t : Int) : Prop :=
  ∃ e ∈ h, e.task = i ∧ e.time = t ∧ e.refuses lock

theorem RefusedAt.append {lock : String} {h : List Event} {i : Nat} {t : Int}
    (refused : RefusedAt lock h i t) (k : List Event) : RefusedAt lock (h ++ k) i t := by
  obtain ⟨e, he, rest⟩ := refused
  exact ⟨e, List.mem_append_left k he, rest⟩

/-! ## Schedules of tries -/

/-- The instants of a call's tries: its start, how many more tries it may make after that, and the
    pause between two of them. -/
structure Tempo where
  lock : String
  start : Int
  retries : Int
  pause : Int

namespace Tempo

variable (p : Tempo)

/-- The instant after so many pauses. -/
def after (pauses : Nat) : Int := p.start + pauses * p.pause

/-- The instant of one of the tries. -/
def Beat (t : Int) : Prop := ∃ n : Nat, (n : Int) ≤ p.retries ∧ t = p.after n

/-- What a call has done so far, by how far it got. -/
def Tried (h : List Event) (i : Nat) : Progress → Prop
  | .delayed => ∀ e ∈ h, e.task ≠ i
  | .ready n => (n : Int) ≤ p.retries ∧ lastTime? h i = some (p.after n) ∧ outcomesOf h i = []
      ∧ ∀ k < n, RefusedAt p.lock h i (p.after k)
  | .refused n => (n : Int) ≤ p.retries ∧ lastTime? h i = some (p.after n) ∧ outcomesOf h i = []
      ∧ ∀ k ≤ n, RefusedAt p.lock h i (p.after k)
  | .acquired => (∃ t, lastTime? h i = some t ∧ p.Beat t) ∧ outcomesOf h i = []
      ∧ ∃ t, AcquiredAt p.lock h i t
  | .counted outcome => (∃ t, lastTime? h i = some t ∧ p.Beat t) ∧ outcomesOf h i = [outcome]
      ∧ ∃ t, AcquiredAt p.lock h i t
  | .gaveUp => (∃ t, lastTime? h i = some t ∧ p.Beat t) ∧ outcomesOf h i = [.failOpen]
      ∧ ∀ k : Nat, (k : Int) ≤ p.retries → RefusedAt p.lock h i (p.after k)
  | .broken => False

variable {p} {h : List Event} {i : Nat} {stage stage' : Progress} {e : Event}

/-- A call that has begun last did something on a beat. -/
theorem Tried.last (tried : p.Tried h i stage) (begun : stage ≠ .delayed) :
    ∃ t, lastTime? h i = some t ∧ p.Beat t := by
  cases stage with
  | delayed => exact absurd rfl begun
  | ready n | refused n => exact ⟨_, tried.2.1, n, tried.1, rfl⟩
  | acquired | counted | gaveUp => exact tried.1
  | broken => exact tried.elim

/-- What neither comes later than what the call last did nor counts an outcome of its own changes
    nothing for a call that has begun. -/
theorem Tried.append (tried : p.Tried h i stage) (begun : stage ≠ .delayed)
    (last : lastTime? (h ++ [e]) i = lastTime? h i)
    (outcomes : outcomesOf (h ++ [e]) i = outcomesOf h i) : p.Tried (h ++ [e]) i stage := by
  cases stage with
  | delayed => exact absurd rfl begun
  | ready n | refused n =>
    obtain ⟨le, at_, none, refused⟩ := tried
    exact ⟨le, last.trans at_, outcomes.trans none, fun k hk => (refused k hk).append _⟩
  | acquired | counted =>
    obtain ⟨⟨t, at_, beat⟩, counted, s, acquired⟩ := tried
    exact ⟨⟨t, last.trans at_, beat⟩, outcomes.trans counted, s, acquired.append _⟩
  | gaveUp =>
    obtain ⟨⟨t, at_, beat⟩, counted, refused⟩ := tried
    exact ⟨⟨t, last.trans at_, beat⟩, outcomes.trans counted, fun k hk => (refused k hk).append _⟩
  | broken => exact tried

/-- What another task does changes nothing. -/
theorem Tried.other (tried : p.Tried h i stage) (other : e.task ≠ i) :
    p.Tried (h ++ [e]) i stage := by
  by_cases begun : stage = .delayed
  · subst begun
    exact List.forall_mem_append.2 ⟨tried, List.forall_mem_singleton.2 other⟩
  · exact tried.append begun (lastTime?_append_of_ne (by simpa using other) h)
      (outcomesOf_snoc_of_ne h other)

/-- What a call does without a pause and without counting an outcome changes nothing. -/
theorem Tried.aside (tried : p.Tried h e.task stage) (begun : stage ≠ .delayed)
    (now : lastTime? h e.task = some e.time) (uncounted : e.outcome? = none) :
    p.Tried (h ++ [e]) e.task stage := by
  refine tried.append begun ?_ ?_
  · rw [lastTime?_snoc, if_pos rfl, now]
  · rw [outcomesOf_snoc, uncounted]
    exact List.append_nil _

/-- In a world without faults no command about a lock fails in a way that no store does. -/
theorem not_upsets {v : World} (admits : v.Admits e) (perform : e.action = .perform) :
    e.upsets = false := by
  obtain ⟨-, answered⟩ := admits
  obtain ⟨time, task, effect, action, answer⟩ := e
  cases effect with
  | command c =>
    cases perform
    cases answer with
    | ok reply => rfl
    | error f =>
      have answered : (.error f : Except Failure Json) = (c.perform v.now v.store).2 := answered
      rw [Command.eq_invalidExpiry (Prod.ext rfl answered.symm)]
      rfl
  | _ => rfl

/-- What a call does that comes as soon as it can is on a beat, and it has tried as it should. -/
theorem Tried.step {starts : Nat → Int} (pause : 0 ≤ p.pause) (retries : 0 ≤ p.retries)
    (start : p.start = starts e.task) (punctual : Punctual starts h e) (calm : e.upsets = false)
    (tried : p.Tried h e.task stage)
    (step : Progress.Step p.lock p.retries p.pause stage e stage') :
    p.Beat e.time ∧ p.Tried (h ++ [e]) e.task stage' := by
  have now : lastTime? (h ++ [e]) e.task = some e.time := by rw [lastTime?_snoc, if_pos rfl]
  have outcomes := outcomesOf_snoc h e
  have new : ∀ {P : Event → Prop}, P e → ∃ x ∈ h ++ [e], P x := fun he =>
    ⟨e, List.mem_append_right h (List.mem_singleton_self e), he⟩
  cases step with
  | @wait time task ms action answer =>
    have first : lastTime? h task = none := by
      rcases lastTime?_cases h task with ⟨first, -⟩ | ⟨x, hx, own, -⟩
      · exact first
      · exact absurd own (tried x hx)
    have same : time = p.after 0 := (punctual.first first).trans (by simp [after, start])
    refine ⟨⟨0, retries, same⟩, retries, now.trans (congrArg some same), ?_, by simp⟩
    rw [outcomes, outcomesOf_of_none tried]
    rfl
  | aside begun light =>
    obtain ⟨t, last, beat⟩ := tried.last begun
    have rest : e.effect.rest = 0 := by
      cases effect : e.effect with
      | pause | wait => simp [effect, Effect.light] at light
      | _ => rfl
    have uncounted : e.outcome? = none := by
      unfold Event.outcome?
      split
      · next effect => simp [effect, Effect.light] at light
      · rfl
    have time := punctual.now last rest
    exact ⟨time ▸ beat, tried.aside begun (time ▸ last) uncounted⟩
  | @acquire n _ acquires =>
    obtain ⟨le, last, none, -⟩ := tried
    obtain ⟨time, task, effect, action, answer⟩ := e
    cases effect with
    | command c =>
      have same := punctual.now last rfl
      refine ⟨⟨n, le, same⟩, ⟨_, now, n, le, same⟩, ?_, _, new ⟨rfl, rfl, acquires⟩⟩
      rw [outcomes, none]
      rfl
    | _ => cases acquires
  | @refuse n _ refuses =>
    obtain ⟨le, last, none, refused⟩ := tried
    obtain ⟨time, task, effect, action, answer⟩ := e
    cases effect with
    | command c =>
      have same := punctual.now last rfl
      refine ⟨⟨n, le, same⟩, le, now.trans (congrArg some same), ?_, fun k hk => ?_⟩
      · rw [outcomes, none]
        rfl
      · rcases Nat.lt_or_eq_of_le hk with hk | rfl
        · exact (refused k hk).append _
        · exact new ⟨rfl, same, refuses⟩
    | _ => cases refuses
  | @pause n left time task action answer =>
    obtain ⟨-, last, none, refused⟩ := tried
    have same : time = p.after (n + 1) := by
      have time := punctual.next last
      simp only [Effect.rest, Int.max_eq_right pause] at time
      rw [time, after, after]
      push_cast
      rw [Int.add_mul]
      omega
    have le : ((n + 1 : Nat) : Int) ≤ p.retries := by omega
    refine ⟨⟨n + 1, le, same⟩, le, now.trans (congrArg some same), ?_, fun k hk => ?_⟩
    · rw [outcomes, none]
      rfl
    · exact (refused k (by omega)).append _
  | @giveUp n all time task action answer =>
    obtain ⟨le, last, none, refused⟩ := tried
    have same := punctual.now last rfl
    refine ⟨⟨n, le, same⟩, ⟨_, now, n, le, same⟩, ?_, fun k hk => (refused k (by omega)).append _⟩
    rw [outcomes, none]
    rfl
  | count =>
    obtain ⟨⟨t, last, beat⟩, none, s, acquired⟩ := tried
    have same := punctual.now last rfl
    refine ⟨same ▸ beat, ⟨_, now, same ▸ beat⟩, ?_, s, acquired.append _⟩
    rw [outcomes, none]
    rfl
  | upset upsets =>
    rw [calm] at upsets
    cases upsets
  | late => exact tried.elim

end Tempo

/-! ## The whole run -/

namespace Progress

/-- Record calls next to each other that try for one lock, with so many retries and a pause before
    each. -/
def regime (lock : String) (retries pause : Int) :
    Regime (Except Failure CallResult) Progress where
  setting := Schedule.prompt
  protocol _ := protocol lock retries pause
  ends _ result stage := ∃ outcome : Except Failure Bool,
    result = outcome.map .flag ∧ Ends outcome stage
  actions := (· = .perform)
  vacant := .delayed

/-- What the calls do is their own, and if it comes as soon as it can they try as they should. -/
theorem keeps {lock : String} {retries pause : Int} (starts : Nat → Int) (slept : 0 ≤ pause)
    (tries : 0 ≤ retries) :
    (regime lock retries pause).Keeps fun v stages => (∀ e ∈ v.history, e.effect.own)
      ∧ (Each (Punctual starts) v.history →
        (∀ e ∈ v.history, (Tempo.mk lock (starts e.task) retries pause).Beat e.time)
          ∧ ∀ i, (Tempo.mk lock (starts i) retries pause).Tried v.history i (stages i)) where
  perform := rfl
  event := by
    intro v stages e stage ⟨owned, inTime⟩ admits perform step
    refine ⟨List.forall_mem_append.2 ⟨owned, List.forall_mem_singleton.2
      ((protocol lock retries pause).own _ _ _ step)⟩, fun each => ?_⟩
    · have punctual : Punctual starts v.history e := each v.history e [] rfl
      obtain ⟨beats, tried⟩ := inTime each.left
      obtain ⟨beat, own⟩ := Tempo.Tried.step (p := ⟨lock, starts e.task, retries, pause⟩) slept
        tries rfl punctual (Tempo.not_upsets admits perform) (tried e.task) step
      refine ⟨List.forall_mem_append.2 ⟨beats, List.forall_mem_singleton.2 beat⟩, fun i => ?_⟩
      by_cases mine : i = e.task
      · subst mine
        rw [Function.update_self]
        exact own
      · rw [Function.update_of_ne mine]
        exact (tried i).other (Ne.symm mine)
  pass := fun _ _ _ _ inv _ _ _ => inv
  outside := fun _ _ _ _ _ _ change => change.elim

/-- At the start nothing was done. -/
theorem keeps_start {lock : String} {retries pause : Int} (starts : Nat → Int) (v : World)
    (none : v.history = []) : (∀ e ∈ v.history, e.effect.own)
      ∧ (Each (Punctual starts) v.history →
        (∀ e ∈ v.history, (Tempo.mk lock (starts e.task) retries pause).Beat e.time)
          ∧ ∀ i, (Tempo.mk lock (starts i) retries pause).Tried v.history i .delayed) := by
  rw [none]
  exact ⟨fun e he => absurd he List.not_mem_nil, fun _ => ⟨fun e he => absurd he List.not_mem_nil,
    fun _ e he => absurd he List.not_mem_nil⟩⟩

end Progress

end Turnstile

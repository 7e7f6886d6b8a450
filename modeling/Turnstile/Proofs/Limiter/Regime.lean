import Turnstile.Proofs.Limiter.Calls
import Turnstile.Proofs.Run.History

set_option autoImplicit false

/-! # Calls side by side

The regime under which calls on the limiter run next to each other: each obeys the protocol of its
own site, and its result is told by the stage that it ends at. -/

namespace Turnstile

/-- A call together with the delay after which it starts. -/
abbrev Delayed := Int × Call

/-- The answer of a call, where that is yes or no. -/
def CallResult.flag? : CallResult → Option Bool
  | .flag b => some b
  | _ => none

theorem CallResult.eq_of_flag? {result : CallResult} {b : Bool} (h : result.flag? = some b) :
    result = .flag b := by
  unfold flag? at h
  split at h
  · rw [Option.some.inj h]
  · cases h

namespace Call

/-- Where a call works, if it is one on the limiter or the guard. To drop a record takes no limiter;
    the first stands in for it. -/
def site? (instances : Instances) : Call → Option Site
  | .record i world subject => some ⟨instances.limiter i, world, subject, false, true, false⟩
  | .isLimited i world subject => some ⟨instances.limiter i, world, subject, true, false, false⟩
  | .check i _ world subject _ _ => some ⟨instances.limiter i, world, subject, true, true, true⟩
  | .clear world subject => some ⟨instances.limiter 0, world, subject, false, false, true⟩
  | _ => none

/-- What the stage at which a call ends tells of its result. -/
def Ends : Call → Except Failure CallResult → Stage → Prop
  | .record .., result, stage =>
    ∃ outcome, result = outcome.map .flag ∧ Site.RecordEnds outcome stage
  | .isLimited .., result, stage =>
    ∃ outcome, result = outcome.map .flag ∧ Site.LookEnds outcome stage
  | .check .., result, stage =>
    ∃ outcome, result = outcome.map .flag ∧ Site.CheckEnds outcome stage
  | .clear .., result, stage =>
    ∃ outcome, result = outcome.map (fun _ => .nothing) ∧ Site.DropEnds outcome stage
  | _, _, _ => True

/-- A call on the limiter or the guard obeys the protocol of its site. -/
theorem obeys {instances : Instances} {call : Call} {p : Site} (h : call.site? instances = some p)
    (task : Nat) : (call.routine instances).Obeys p.protocol task call.Ends .idle := by
  cases call with
  | record i world subject =>
    cases h
    rw [routine]
    exact Routine.Obeys.map _ _ (Site.recordFailure_obeys rfl trivial)
      fun outcome _ h => ⟨outcome, rfl, h.1⟩
  | isLimited i world subject =>
    cases h
    rw [routine]
    exact Routine.Obeys.map _ _ (Site.isLimited_obeys rfl) fun outcome _ h => ⟨outcome, rfl, h⟩
  | check i requestId world subject plain hashed =>
    cases h
    rw [routine]
    exact Routine.Obeys.map _ _ (Site.check_obeys rfl rfl rfl) fun outcome _ h => ⟨outcome, rfl, h⟩
  | clear world subject =>
    cases h
    rw [routine]
    exact Routine.Obeys.map _ _ (Site.clear_obeys rfl trivial) fun outcome _ h => ⟨outcome, rfl, h⟩
  | _ => cases h

/-- The process of a call, to start after its delay. -/
def process (instances : Instances) (call : Delayed) : Int × Proc (Except Failure CallResult) :=
  (call.1, (call.2.routine instances).run)

/-- The calls next to each other, before any has started. -/
def sideBySide (instances : Instances) (calls : List Delayed) (s : System) :
    Schedule (Except Failure CallResult) :=
  .start (calls.map (process instances)) s

/-- The site of the call that is the `i`-th task; `p` stands in where there is none. -/
def siteAt (instances : Instances) (calls : List Delayed) (p : Site) (i : Nat) : Site :=
  ((calls[i]?).bind (·.2.site? instances)).getD p

/-- Calls next to each other, with what the setting leaves open and what may come in the way of
    commands. -/
def regime (instances : Instances) (calls : List Delayed) (p : Site)
    (setting : Setting (Except Failure CallResult)) (actions : FaultAction → Prop) :
    Regime (Except Failure CallResult) Stage where
  setting := setting
  protocol i := (siteAt instances calls p i).protocol
  ends i result stage := ∃ call, calls[i]? = some call ∧ call.2.Ends result stage
  actions := actions
  vacant := .delayed

theorem siteAt_eq {instances : Instances} {calls : List Delayed} {i : Nat} {call : Delayed}
    {p q : Site} (hi : calls[i]? = some call) (hq : call.2.site? instances = some q) :
    siteAt instances calls p i = q := by
  simp [siteAt, hi, hq]

/-- What holds of the sites of all calls holds of the site of every task. -/
theorem siteAt_all {instances : Instances} {calls : List Delayed} {p : Site} {Q : Site → Prop}
    (hp : Q p) (h : ∀ call ∈ calls, ∀ q, call.2.site? instances = some q → Q q) (i : Nat) :
    Q (siteAt instances calls p i) := by
  rw [siteAt]
  cases hi : calls[i]? with
  | none => exact hp
  | some call =>
    rw [Option.bind_some]
    cases hq : call.2.site? instances with
    | none => exact hp
    | some q => exact h call (List.mem_of_getElem? hi) q hq

/-- No task's record is kept under the key of a task's lock, if none of the calls' is and what
    stands in has its keys from one of them. -/
theorem siteAt_key_ne_lock {instances : Instances} {calls : List Delayed} {p : Site}
    (hp : ∃ call ∈ calls, ∃ q, call.2.site? instances = some q ∧ p.key = q.key ∧ p.lock = q.lock)
    (separate : ∀ call ∈ calls, ∀ other ∈ calls, ∀ q r, call.2.site? instances = some q →
      other.2.site? instances = some r → q.key ≠ r.lock) (i j : Nat) :
    (siteAt instances calls p i).key ≠ (siteAt instances calls p j).lock := by
  have shared : ∀ i, ∃ call ∈ calls, ∃ q, call.2.site? instances = some q
      ∧ (siteAt instances calls p i).key = q.key ∧ (siteAt instances calls p i).lock = q.lock :=
    siteAt_all (Q := fun x => ∃ call ∈ calls, ∃ q, call.2.site? instances = some q
      ∧ x.key = q.key ∧ x.lock = q.lock) hp fun call hc q hq => ⟨call, hc, q, hq, rfl, rfl⟩
  obtain ⟨call, hc, q, hq, key, -⟩ := shared i
  obtain ⟨other, ho, r, hr, -, lock⟩ := shared j
  rw [key, lock]
  exact separate call hc other ho q r hq hr

/-- What is done is done by the calls. -/
theorem exists_call {instances : Instances} {calls : List Delayed} {s : System}
    {setting : Setting (Except Failure CallResult)}
    {c d : Schedule (Except Failure CallResult)} {h : List Event} (run : c.Run setting h d)
    (tasks : c.tasks = (sideBySide instances calls s).tasks) {e : Event} (he : e ∈ h) :
    ∃ call, calls[e.task]? = some call := by
  have lt := run.task_lt he
  rw [tasks, sideBySide, Schedule.start, List.length_mapIdx, List.length_map] at lt
  exact ⟨_, List.getElem?_eq_getElem lt⟩

/-- A site that is not the one that stands in is that of a call. -/
theorem siteAt_of {instances : Instances} {calls : List Delayed} {p : Site} {Q : Site → Prop}
    (hp : ¬Q p) {i : Nat} (h : Q (siteAt instances calls p i)) :
    ∃ call, calls[i]? = some call ∧ call.2.site? instances = some (siteAt instances calls p i) := by
  rw [siteAt] at h ⊢
  cases hi : calls[i]? with
  | none =>
    rw [hi] at h
    exact absurd h hp
  | some call =>
    rw [hi, Option.bind_some] at h
    cases hq : call.2.site? instances with
    | none =>
      rw [hq] at h
      exact absurd h hp
    | some q => exact ⟨call, rfl, by simp [hq]⟩

/-- A call goes by the limiter of an instance. -/
theorem limiter_of_site? {instances : Instances} {call : Call} {p : Site}
    (hp : call.site? instances = some p) : ∃ i, p.limiter = instances.limiter i := by
  cases call with
  | record i => exact ⟨i, by cases hp; rfl⟩
  | isLimited i => exact ⟨i, by cases hp; rfl⟩
  | check i => exact ⟨i, by cases hp; rfl⟩
  | clear => exact ⟨0, by cases hp; rfl⟩
  | _ => cases hp

/-- At the start every task rests, and has done nothing. -/
theorem atRest_sideBySide {instances : Instances} {calls : List Delayed} {p : Site}
    {setting : Setting (Except Failure CallResult)} {actions : FaultAction → Prop}
    (perform : actions .perform) (sites : ∀ call ∈ calls, (call.2.site? instances).isSome)
    (s : System) :
    (regime instances calls p setting actions).AtRest (sideBySide instances calls s)
      fun _ => .delayed := by
  refine ⟨?_, fun _ _ => rfl⟩
  intro i t ht
  simp only [sideBySide, Schedule.start, List.getElem?_mapIdx, List.getElem?_map,
    Option.map_eq_some_iff] at ht
  obtain ⟨_, ⟨call, hi, rfl⟩, rfl⟩ := ht
  obtain ⟨q, hq⟩ := Option.isSome_iff_exists.1 (sites call (List.mem_of_getElem? hi))
  refine ⟨rfl, perform, fun time action answer => ⟨.idle, .wait, ?_⟩⟩
  show Proc.Obeys (siteAt instances calls p i).protocol i _ (call.2.routine instances).run .idle
  rw [siteAt_eq hi hq]
  exact (obeys hq i).mono fun result stage h => ⟨call, hi, h⟩

/-! ## Where a task that holds its lock may rest -/

/-- A call that counts attempts or looks at their number; it drops no record. -/
def Counting : Call → Prop
  | .record .. | .isLimited .. => True
  | _ => False

/-- A counting call does not end while it holds its lock. -/
theorem Ends.ne_inside {call : Call} (counting : call.Counting) {result : Except Failure CallResult}
    {stage : Stage} (h : call.Ends result stage) (hold : Hold) (phase : Phase) :
    stage ≠ .inside hold phase := by
  rintro rfl
  cases call with
  | record i world subject =>
    obtain ⟨outcome, -, h⟩ := h
    cases h
  | isLimited i world subject =>
    obtain ⟨outcome, -, h⟩ := h
    cases h
  | _ => exact counting

/-- What waits under the lock is a command, and the handle and the clock reading come first. -/
theorem step_inside_waits {p : Site} {hold : Hold} {phase : Phase} {e : Event}
    {stage : Stage} (step : p.Step (.inside hold phase) e stage) (waits : e.effect.waits) :
    (∃ c, e.effect = .command c) ∧ phase ≠ .granted ∧ ∀ acquired, phase ≠ .begun acquired := by
  cases step with
  | judge | write | release => simp
  | drop _ isOpen | draw _ isOpen => cases isOpen
  | _ => cases waits

/-- A number at rest is no task's, or its task has ended or waits for an effect that is a step. -/
theorem atRest_cases {instances : Instances} {calls : List Delayed} {p : Site}
    {setting : Setting (Except Failure CallResult)} {actions : FaultAction → Prop}
    {c : Schedule (Except Failure CallResult)} {stages : Nat → Stage}
    (rest : (regime instances calls p setting actions).AtRest c stages) (i : Nat) :
    stages i = .delayed
      ∨ (∃ result call, calls[i]? = some call ∧ call.2.Ends result (stages i))
      ∨ ∃ w, .waiting w ∈ c.tasks ∧ w.effect.waits
        ∧ ∃ e stage, e.effect = w.effect
          ∧ (siteAt instances calls p i).Step (stages i) e stage := by
  cases ht : c.tasks[i]? with
  | none => exact .inl (rest.2 i ht)
  | some t =>
    have rests := rest.1 i t ht
    cases t with
    | ended result =>
      obtain ⟨call, hi, ends⟩ := rests
      exact .inr (.inl ⟨result, call, hi, ends⟩)
    | waiting w =>
      obtain ⟨waits, -, obeys⟩ := rests
      obtain ⟨answer⟩ := Effect.nonempty_of_waits waits
      obtain ⟨stage, step, -⟩ := obeys 0 .perform answer
      exact .inr (.inr ⟨w, List.mem_of_getElem? ht, waits, _, stage, rfl, step⟩)

/-- A task that holds its lock rests before a command. -/
theorem atRest_inside {instances : Instances} {calls : List Delayed} {p : Site}
    {setting : Setting (Except Failure CallResult)} {actions : FaultAction → Prop}
    (counting : ∀ call ∈ calls, call.2.Counting) {c : Schedule (Except Failure CallResult)}
    {stages : Nat → Stage} (rest : (regime instances calls p setting actions).AtRest c stages)
    {i : Nat} {hold : Hold} {phase : Phase} (inside : stages i = .inside hold phase) :
    (∃ w, .waiting w ∈ c.tasks ∧ ∃ cmd, w.effect = .command cmd)
      ∧ phase ≠ .granted ∧ ∀ acquired, phase ≠ .begun acquired := by
  have cases := atRest_cases rest i
  rw [inside] at cases
  rcases cases with vacant | ⟨result, call, hi, ends⟩ | ⟨w, hw, waits, e, stage, same, step⟩
  · cases vacant
  · exact absurd rfl (ends.ne_inside (counting call (List.mem_of_getElem? hi)) hold phase)
  · rw [← same] at waits
    obtain ⟨command, phases⟩ := step_inside_waits step waits
    rw [same] at command
    exact ⟨⟨w, hw, command⟩, phases⟩

/-- A task that weighs what it has found does not rest. -/
theorem atRest_ne_looked {instances : Instances} {calls : List Delayed} {p : Site}
    {setting : Setting (Except Failure CallResult)} {actions : FaultAction → Prop}
    (counting : ∀ call ∈ calls, call.2.Counting) {c : Schedule (Except Failure CallResult)}
    {stages : Nat → Stage} (rest : (regime instances calls p setting actions).AtRest c stages)
    (i : Nat) (value : Json) : stages i ≠ .looked value := by
  intro looked
  have cases := atRest_cases rest i
  rw [looked] at cases
  rcases cases with vacant | ⟨result, call, hi, ends⟩ | ⟨w, hw, waits, e, stage, same, step⟩
  · cases vacant
  · have plain := counting call (List.mem_of_getElem? hi)
    obtain ⟨delay, call⟩ := call
    cases call with
    | record | isLimited =>
      obtain ⟨outcome, -, ends⟩ := ends
      cases ends
    | _ => exact plain
  · rw [← same] at waits
    cases step with
    | drop _ isOpen | draw _ isOpen => cases isOpen
    | _ => cases waits

end Call

end Turnstile

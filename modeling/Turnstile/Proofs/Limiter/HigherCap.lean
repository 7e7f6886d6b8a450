import Turnstile.Proofs.Limiter.Register
import Turnstile.Proofs.Limiter.Timeless
import Turnstile.Proofs.Lock.Doings
import Turnstile.Proofs.Run.Alike

set_option autoImplicit false

/-! # A higher cap

Two limiters that differ in their caps alone, and make the same moves on one pair, each on a store
of its own. The one with the higher cap lets through whatever the other does, and may let through
more, so that it holds more timestamps; still it never turns away an attempt that the other lets
through (`raising_cap_blocks_no_more`). The reason is how far it is ahead: in the present window it
never holds more than the other by more than its cap is higher (`Register.Leads`). -/

namespace Turnstile

/-! ## Moves on one pair -/

/-- A step of a run on one pair: a failed attempt, a clearing of its record, or some time that
    passes. -/
inductive PairMove where
  | attempt
  | clear
  | wait (ms : Int)

/-- The move as a step of a session. -/
def PairMove.step (world subject : String) : PairMove → Step
  | .attempt => .call (.record 0 world subject)
  | .clear => .call (.clear world subject)
  | .wait ms => .call (.wait ms)

/-- A single instance of a configuration, with a cap of its own. -/
def LimiterConfig.cappedAt (config : LimiterConfig) (cap : Int) : Instances :=
  ⟨[{ config with cap := cap }]⟩

namespace Session

/-- The system after a step that was observed. -/
def next (instances : Instances) (s : System) (step : Step) : System :=
  ((step.run instances s).1.observe (step.run instances s).2).1

/-- The system after steps that were observed. -/
def after (instances : Instances) (s : System) (steps : List Step) : System :=
  steps.foldl (next instances) s

/-- What steps come to. -/
def results (instances : Instances) (s : System) (steps : List Step) : List CallResult :=
  (observations instances s steps).map (·.result)

theorem results_cons (instances : Instances) (s : System) (step : Step) (rest : List Step) :
    results instances s (step :: rest)
      = (step.run instances s).2 :: results instances (next instances s step) rest := rfl

end Session

/-- These are the timestamps in a limiter's window that are in the record under a key now. -/
def System.Windowed (s : System) (l : Limiter) (key : String) (timestamps : List Int) : Prop :=
  ∃ now, s.read l.clock = .ok now ∧ Register.Finds l.config s.store key s.elapsed now timestamps

/-! ## How far the higher cap is ahead -/

/-- Of two lists, one a part of the other, a narrower test tells no more of the difference. -/
theorem length_filter_add_le {α : Type} {xs ys : List α} {p q : α → Bool}
    (part : xs.Sublist ys) (narrower : ∀ a, q a → p a) :
    (ys.filter q).length + (xs.filter p).length ≤ (ys.filter p).length + (xs.filter q).length := by
  induction part with
  | slnil => exact Nat.le_refl _
  | cons a _ ih =>
    have := narrower a
    by_cases hq : q a = true
    · simp only [List.filter_cons, hq, this hq, if_true, List.length_cons]
      omega
    · by_cases hp : p a = true <;> simp [hp, hq] <;> omega
  | cons_cons a _ ih =>
    have := narrower a
    by_cases hq : q a = true
    · simp only [List.filter_cons, hq, this hq, if_true, List.length_cons]
      omega
    · by_cases hp : p a = true <;> simp [hp, hq] <;> omega

namespace Register

/-- The timestamps under a key that lie in a window of `seconds`. -/
def inWindow (r : Register) (seconds : Int) (key : String) : List Int :=
  (r.attempts key).filter (Window.start r.now seconds < ·)

/-- At one instant a register holds what another does, under a cap that is higher by at least as
    much as it holds more in the present window. -/
structure Leads (seconds cap cap' : Int) (key : String) (r r' : Register) : Prop where
  now : r'.now = r.now
  part : (r.attempts key).Sublist (r'.attempts key)
  ahead : (r'.inWindow seconds key).length + cap ≤ (r.inWindow seconds key).length + cap'

namespace Leads

variable {seconds cap cap' : Int} {key : String} {r r' : Register} {config : LimiterConfig}

theorem inWindow (leads : Leads seconds cap cap' key r r') :
    (r.inWindow seconds key).Sublist (r'.inWindow seconds key) := by
  unfold Register.inWindow
  rw [leads.now]
  exact leads.part.filter _

/-- As the window moves on, the lead does not grow. -/
theorem later (leads : Leads seconds cap cap' key r r') {now : Int} (later : r.now ≤ now) :
    Leads seconds cap cap' key { r with now := now } { r' with now := now } := by
  refine ⟨rfl, leads.part, ?_⟩
  have narrower : ∀ n : Int, decide (Window.start now seconds < n)
      → decide (Window.start r.now seconds < n) := by
    intro n hn
    have hn : Window.start now seconds < n := of_decide_eq_true hn
    refine decide_eq_true ?_
    unfold Window.start at hn ⊢
    omega
  have kept := length_filter_add_le leads.part narrower
  have ahead := leads.ahead
  unfold Register.inWindow at ahead ⊢
  rw [leads.now] at ahead
  simp only
  omega

/-- Where both drop all, neither is ahead. -/
theorem clear (leads : Leads seconds cap cap' key r r') (caps : cap ≤ cap') :
    Leads seconds cap cap' key (r.put key []) (r'.put key []) := by
  refine ⟨leads.now, ?_, ?_⟩
  · simp
  · simpa [Register.inWindow] using caps

/-- What the higher cap turns away the lower one does. -/
theorem limited (leads : Leads config.windowSeconds cap cap' key r r')
    (full : r'.limited { config with cap := cap' } key = true) :
    r.limited { config with cap := cap } key = true := by
  have ahead := leads.ahead
  rw [limited_eq, decide_eq_true_eq] at full ⊢
  have full : cap' ≤ (r'.inWindow config.windowSeconds key).length := full
  show cap ≤ (r.inWindow config.windowSeconds key).length
  omega

/-- An attempt that is made now comes last in the window. -/
theorem inWindow_add (r : Register) (seconds : Int) (key : String) :
    (r.add key).inWindow seconds key
      = r.inWindow seconds key ++ [r.now].filter (Window.start r.now seconds < ·) := by
  have attempts : (r.add key).attempts key = r.attempts key ++ [r.now] :=
    attempts_put_self r key _
  rw [Register.inWindow, attempts, List.filter_append]
  rfl

/-- Where both let the attempt through, or only the higher cap does, the lead stays within the
    difference of the caps. -/
theorem attempt (leads : Leads config.windowSeconds cap cap' key r r') :
    Leads config.windowSeconds cap cap' key
      (if r.limited { config with cap := cap } key then r else r.add key)
      (if r'.limited { config with cap := cap' } key then r' else r'.add key) := by
  have mono := leads.limited
  have added : (r.add key).attempts key = r.attempts key ++ [r.now] := attempts_put_self r key _
  have added' : (r'.add key).attempts key = r'.attempts key ++ [r'.now] :=
    attempts_put_self r' key _
  cases full' : r'.limited { config with cap := cap' } key with
  | true =>
    rw [mono full']
    exact leads
  | false =>
    cases full : r.limited { config with cap := cap } key with
    | true =>
      -- Only the higher cap has room, so that it is not yet ahead by the whole difference.
      refine ⟨leads.now, ?_, ?_⟩
      · show (r.attempts key).Sublist ((r'.add key).attempts key)
        rw [added']
        exact leads.part.trans (List.sublist_append_left _ _)
      · show (((r'.add key).inWindow config.windowSeconds key).length : Int) + cap
          ≤ (r.inWindow config.windowSeconds key).length + cap'
        rw [limited_eq, decide_eq_true_eq] at full
        rw [limited_eq, decide_eq_false_iff_not] at full'
        have full : cap ≤ (r.inWindow config.windowSeconds key).length := full
        have full' : ¬cap' ≤ (r'.inWindow config.windowSeconds key).length := full'
        have one := List.length_filter_le (Window.start r'.now config.windowSeconds < ·) [r'.now]
        rw [inWindow_add, List.length_append]
        rw [List.length_singleton] at one
        omega
    | false =>
      refine ⟨leads.now, ?_, ?_⟩
      · show ((r.add key).attempts key).Sublist ((r'.add key).attempts key)
        rw [added, added', leads.now]
        exact leads.part.append (List.Sublist.refl _)
      · show (((r'.add key).inWindow config.windowSeconds key).length : Int) + cap
          ≤ ((r.add key).inWindow config.windowSeconds key).length + cap'
        have ahead := leads.ahead
        rw [inWindow_add, inWindow_add, List.length_append, List.length_append, leads.now]
        omega

end Leads

end Register

/-! ## Tokens -/

/-- The call has tried for its lock or dropped the record. -/
def Stage.closed : Stage → Bool
  | .delayed | .idle | .looked _ | .weighed _ => false
  | _ => true

theorem Stage.closed_of_isOpen {stage : Stage} (isOpen : stage.IsOpen) : stage.closed = false := by
  cases stage with
  | idle | weighed => rfl
  | _ => exact isOpen.elim

namespace Site

variable {p : Site} {stage stage' : Stage} {e : Event}

/-- What has tried for its lock or dropped the record draws no more tokens. -/
theorem Step.closed (step : p.Step stage e stage') (closed : stage.closed) :
    stage'.closed ∧ e.effect ≠ .freshToken := by
  cases step with
  | log | count => exact ⟨closed, nofun⟩
  | wait | look | weigh => cases closed
  | drop _ isOpen | draw _ isOpen =>
    rw [Stage.closed_of_isOpen isOpen] at closed
    cases closed
  | contend =>
    refine ⟨?_, nofun⟩
    fun_cases tried <;> rfl
  | @handle _ _ _ _ reading => cases reading <;> exact ⟨rfl, nofun⟩
  | _ => exact ⟨rfl, nofun⟩

/-- A call that does not look has drawn a token if it has tried for its lock, and none else. -/
def Drawn (p : Site) (n : Nat) (v : World) (stage : Stage) : Prop :=
  stage = .idle ∧ v.tokens = n ∨ stage.closed ∧ v.tokens = if p.records then n + 1 else n

theorem Drawn.step {n : Nat} {v : World}
    (only : p.looks = false ∧ (p.records = false ∨ p.drops = false)) (drawn : p.Drawn n v stage)
    (step : p.Step stage e stage') : p.Drawn n (v.add e) stage' := by
  rcases drawn with ⟨rfl, tokens⟩ | ⟨closed, tokens⟩
  · cases step with
    | log | count => exact .inl ⟨rfl, tokens⟩
    | look may =>
      rw [only.1] at may
      cases may
    | draw may =>
      refine .inr ⟨rfl, ?_⟩
      rw [if_pos may]
      exact congrArg (· + 1) tokens
    | drop may =>
      have records : p.records = false := only.2.resolve_right (by simp [may])
      refine .inr ⟨?_, ?_⟩
      · fun_cases dropped <;> rfl
      · rw [records]
        exact tokens
  · obtain ⟨closed', other⟩ := step.closed closed
    refine .inr ⟨closed', ?_⟩
    rw [World.tokens_add_of_ne v e other]
    exact tokens

/-- How many tokens a call draws that does not look: one to record an attempt, none to drop the
    record. -/
theorem tokens_run {α : Type} {proc : Proc α} {task : Nat} {ends : α → Stage → Prop}
    (obeys : proc.Obeys p.protocol task ends .idle) (ended : ∀ a, ¬ends a .idle)
    (only : p.looks = false ∧ (p.records = false ∨ p.drops = false)) {s : System}
    (noFault : s.faults = []) :
    (proc.run task s).1.tokens = if p.records then s.tokens + 1 else s.tokens := by
  have pass : ∀ v stage e stage' t, p.Drawn s.tokens v stage → p.Step stage e stage' →
      e.effect.idles → v.now ≤ t → p.Drawn s.tokens (v.atTime t) stage :=
    fun _ _ _ _ _ drawn _ _ _ => drawn
  obtain ⟨stage, h, drawn, ends, -⟩ := Proc.run_invariant
    (fun _ _ _ _ drawn _ _ step => drawn.step only step) pass obeys noFault (h := [])
    (.inl ⟨rfl, rfl⟩)
  rcases drawn with ⟨rfl, -⟩ | ⟨-, tokens⟩
  · exact absurd ends (ended _)
  · exact tokens

end Site

/-! ## The lock -/

/-- To acquire a lock is about its entry alone. -/
theorem Lock.acquire_within (key : String) (o : LockOptions) :
    (Lock.acquire key o).Only (Effect.Within (· = key)) :=
  Lock.acquire_only (fun _ => trivial) (fun _ => trivial) trivial trivial fun _ _ same =>
    (Option.some.inj same).symm

/-! ## Side by side -/

namespace Register.Stands

variable {config : LimiterConfig} {skew : Int} {keys locks : String → Prop} {s s' : System}
  {r : Register}

/-- Other locks may be free as well. -/
theorem locking (stands : Stands config skew keys locks s r) (locks' : String → Prop)
    (free : ∀ k, locks' k → s.get? k = none) : Stands config skew keys locks' s r :=
  { stands with free := free }

/-- Time has passed, and the records are as they were. -/
theorem drift (stands : Stands config skew keys locks s r) (noFault : s'.faults = [])
    (epoch : s'.epoch = s.epoch) (later : s.elapsed ≤ s'.elapsed)
    (free : ∀ k, locks k → s'.get? k = none)
    (records : ∀ k, keys k → ∀ t, s'.store.get? t k = s.store.get? t k) :
    Stands config skew keys locks s' { r with now := s'.epoch + s'.elapsed + skew } := by
  refine ⟨noFault, rfl, ?_, stands.inRange, free, ?_⟩
  · intro k n hn
    have past := stands.past k n hn
    have now := stands.now
    show n ≤ s'.epoch + s'.elapsed + skew
    omega
  · intro k hk t ht
    rw [epoch]
    exact (stands.finds k hk t (Int.le_trans later ht)).congr (records k hk t)

end Register.Stands

section

variable {config : LimiterConfig} {skew cap cap' : Int} {world subject : String} {s s' : System}
  {r r' : Register}

/-- Two limiters with caps of their own stand side by side after the same moves on a pair: each
    stands as a register does, of which the one leads the other, and as long as the monotonic clock
    can be read the lock is free. -/
structure Abreast (config : LimiterConfig) (skew cap cap' : Int) (world subject : String)
    (s s' : System) (r r' : Register) : Prop where
  stands : Register.Stands { config with cap := cap } skew (· = attemptsKey world subject)
    (fun _ => False) s r
  stands' : Register.Stands { config with cap := cap' } skew (· = attemptsKey world subject)
    (fun _ => False) s' r'
  leads : Register.Leads config.windowSeconds cap cap' (attemptsKey world subject) r r'
  alike : s.Alike (· = lockKey world subject) s'
  skew : s.skews.getD 0 0 = skew
  started : 0 ≤ s.elapsed
  free : MonotonicReadable s.elapsed → s.get? (lockKey world subject) = none

/-- What an attempt does whose lock is free, and that can read the monotonic clock. -/
theorem Register.Stands.attempt
    (stands : Stands { config with cap := cap } skew (· = attemptsKey world subject)
      (fun _ => False) s r) (lasting : Lasting config) (ownSkew : s.skews.getD 0 0 = skew)
    (free : s.get? (lockKey world subject) = none) (readable : Readable s.epoch skew s.elapsed)
    {result : CallResult} (run : Step.run (config.cappedAt cap) s
      (PairMove.attempt.step world subject) = (s', result)) :
    result = .flag (r.limited { config with cap := cap } (attemptsKey world subject))
      ∧ (World.of s' []).SameTime (.of s []) ∧ s'.tokens = s.tokens + 1
      ∧ s'.get? (lockKey world subject) = none
      ∧ Stands { config with cap := cap } skew (· = attemptsKey world subject) (fun _ => False) s'
          (if r.limited { config with cap := cap } (attemptsKey world subject) then r
            else r.add (attemptsKey world subject)) := by
  let p : Site := ⟨(config.cappedAt cap).limiter 0, world, subject, false, true, false⟩
  generalize hr : (p.limiter.recordFailure p.world p.subject).run.run 0 s = done
  obtain ⟨s₁, told⟩ := done
  have tokens : s₁.tokens = s.tokens + 1 := by
    have drawn := Site.tokens_run (@Site.recordFailure_obeys p 0 .idle rfl trivial)
      (by rintro a ⟨ends, -⟩; cases ends) ⟨rfl, .inr rfl⟩ stands.noFault
    rw [hr] at drawn
    exact drawn
  have ran : Step.run (config.cappedAt cap) s (PairMove.attempt.step world subject)
      = (s₁, .ofExcept (told.map .flag)) := by
    simp only [PairMove.step, Step.run, Call.routine, Routine.run_map]
    rw [show (((config.cappedAt cap).limiter 0).recordFailure world subject).run.run 0 s
      = (s₁, told) from hr]
  cases ran.symm.trans run
  have clock : (World.of s []).read p.limiter.clock = .ok r.now := by
    rw [stands.now, ← ownSkew]
    rfl
  have apart : ∀ k, k = attemptsKey world subject → ¬k = lockKey world subject := by
    rintro k rfl
    exact attemptsKey_ne_lockKey world subject
  obtain ⟨rfl, same, stands'⟩ := Stands.record (p := p)
    (stands.locking (· = lockKey world subject) (by rintro k rfl; exact free))
    ⟨lasting.keep, lasting.ttl, lasting.retries⟩ rfl ⟨rfl, rfl⟩ clock readable rfl rfl apart hr
  exact ⟨rfl, same, tokens, stands'.free _ rfl, stands'.locking _ (by simp)⟩

/-- What a clearing does. -/
theorem Register.Stands.clearing
    (stands : Stands { config with cap := cap } skew (· = attemptsKey world subject)
      (fun _ => False) s r) {instances : Instances} {result : CallResult}
    (run : Step.run instances s (PairMove.clear.step world subject) = (s', result)) :
    result = .nothing ∧ (World.of s' []).SameTime (.of s []) ∧ s'.tokens = s.tokens
      ∧ s'.get? (lockKey world subject) = s.get? (lockKey world subject)
      ∧ Stands { config with cap := cap } skew (· = attemptsKey world subject) (fun _ => False) s'
          (r.put (attemptsKey world subject) []) := by
  let p : Site := ⟨⟨{ config with cap := cap }, .skewed 0⟩, world, subject, false, false, true⟩
  generalize hr : (Limiter.clear p.world p.subject).run.run 0 s = done
  obtain ⟨s₁, told⟩ := done
  have tokens : s₁.tokens = s.tokens := by
    have drawn := Site.tokens_run (@Site.clear_obeys p 0 .idle rfl trivial)
      (by rintro a ends; cases ends) ⟨rfl, .inl rfl⟩ stands.noFault
    rw [hr] at drawn
    exact drawn
  have ran : Step.run instances s (PairMove.clear.step world subject)
      = (s₁, .ofExcept (told.map fun _ => .nothing)) := by
    simp only [PairMove.step, Step.run, Call.routine, Routine.run_map]
    rw [show (Limiter.clear world subject).run.run 0 s = (s₁, told) from hr]
  cases ran.symm.trans run
  obtain ⟨rfl, same, stands'⟩ := Stands.clear (p := p) stands rfl ⟨rfl, rfl⟩ rfl (by simp) hr
  obtain ⟨-, -, -, store⟩ := p.clear_run stands.noFault rfl ⟨rfl, rfl⟩ hr
  refine ⟨rfl, same, tokens, ?_, stands'⟩
  have elapsed : s'.elapsed = s.elapsed := same.now
  rw [System.get?, elapsed, store]
  refine Command.get?_perform_of_ne _ _ _ _ _ fun h => ?_
  exact attemptsKey_ne_lockKey world subject (Option.some.inj h)

namespace Abreast

/-- Systems at the same time and without faults look alike on a lock whose entries are the same. -/
theorem alike_of {s₁ s₁' : System} (abreast : Abreast config skew cap cap' world subject s s' r r')
    (same : (World.of s₁ []).SameTime (.of s [])) (same' : (World.of s₁' []).SameTime (.of s' []))
    (noFault : s₁.faults = []) (noFault' : s₁'.faults = []) (tokens : s₁.tokens = s₁'.tokens)
    (lock : s₁.get? (lockKey world subject) = s₁'.get? (lockKey world subject)) :
    s₁.Alike (· = lockKey world subject) s₁' where
  epoch := same.epoch.trans (abreast.alike.epoch.trans same'.epoch.symm)
  elapsed := same.now.trans (abreast.alike.elapsed.trans same'.now.symm)
  faults := noFault.trans noFault'.symm
  tokens := tokens
  skews := same.skews.trans (abreast.alike.skews.trans same'.skews.symm)
  entries := by
    rintro k rfl
    exact lock

/-- Traces and logs do not matter. -/
theorem observe (abreast : Abreast config skew cap cap' world subject s s' r r')
    (trace trace' : List TraceEntry) (logs logs' : List LogEntry) :
    Abreast config skew cap cap' world subject { s with trace := trace, logs := logs }
      { s' with trace := trace', logs := logs' } r r' where
  stands := abreast.stands.observe trace logs
  stands' := abreast.stands'.observe trace' logs'
  leads := abreast.leads
  alike := ⟨abreast.alike.epoch, abreast.alike.elapsed, abreast.alike.faults, abreast.alike.tokens,
    abreast.alike.skews, abreast.alike.entries⟩
  skew := abreast.skew
  started := abreast.started
  free := abreast.free

/-- Some time passes. -/
theorem wait (abreast : Abreast config skew cap cap' world subject s s' r r') (ms : Int) :
    Abreast config skew cap cap' world subject (s.wait ms) (s'.wait ms)
      { r with now := r.now + max 0 ms } { r' with now := r'.now + max 0 ms } where
  stands := abreast.stands.wait ms
  stands' := abreast.stands'.wait ms
  leads := by
    rw [abreast.leads.now]
    exact abreast.leads.later (by omega)
  alike := abreast.alike.wait ms
  skew := abreast.skew
  started := by
    have := abreast.started
    show 0 ≤ s.elapsed + max 0 ms
    omega
  free := by
    intro later
    have le : s.elapsed ≤ s.elapsed + max 0 ms := by omega
    exact Store.get?_eq_none_later le (abreast.free (later.of_le abreast.started le))

/-- Both clear the record. -/
theorem clear (abreast : Abreast config skew cap cap' world subject s s' r r') (caps : cap ≤ cap')
    {instances instances' : Instances} {s₁ s₁' : System} {result result' : CallResult}
    (run : Step.run instances s (PairMove.clear.step world subject) = (s₁, result))
    (run' : Step.run instances' s' (PairMove.clear.step world subject) = (s₁', result')) :
    result' = .nothing ∧ Abreast config skew cap cap' world subject s₁ s₁'
      (r.put (attemptsKey world subject) []) (r'.put (attemptsKey world subject) []) := by
  obtain ⟨-, same, tokens, lock, stands⟩ := abreast.stands.clearing run
  obtain ⟨told, same', tokens', lock', stands'⟩ := abreast.stands'.clearing run'
  have elapsed : s₁.elapsed = s.elapsed := same.now
  refine ⟨told, stands, stands', abreast.leads.clear caps, ?_, ?_, ?_, ?_⟩
  · refine abreast.alike_of same same' stands.noFault stands'.noFault ?_ ?_
    · rw [tokens, tokens', abreast.alike.tokens]
    · rw [lock, lock', abreast.alike.entries _ rfl]
  · rw [show s₁.skews = s.skews from same.skews, abreast.skew]
  · rw [elapsed]
    exact abreast.started
  · rw [lock, elapsed]
    exact abreast.free

/-- Both make an attempt and cannot read the monotonic clock: neither acquires its lock, after the
    same tries, and both let the attempt through. -/
theorem attempt_timeless (abreast : Abreast config skew cap cap' world subject s s' r r')
    (timeless : s.Timeless) {s₁ s₁' : System} {result result' : CallResult}
    (run : Step.run (config.cappedAt cap) s (PairMove.attempt.step world subject) = (s₁, result))
    (run' : Step.run (config.cappedAt cap') s' (PairMove.attempt.step world subject)
      = (s₁', result')) :
    result' = .flag false
      ∧ ∃ r₁ r₁', Abreast config skew cap cap' world subject s₁ s₁' r₁ r₁' := by
  have timeless' : s'.Timeless := timeless.later abreast.alike.elapsed.le
  obtain ⟨told, alike, -⟩ :=
    Proc.Only.alike (Lock.acquire_within (lockKey world subject) config.lock) 0 abreast.alike
  generalize tried : (Lock.acquire (lockKey world subject) config.lock).run.run 0 s = ended
    at told alike
  generalize tried' : (Lock.acquire (lockKey world subject) config.lock).run.run 0 s' = ended'
    at told alike
  obtain ⟨t, outcome⟩ := ended
  obtain ⟨t', outcome'⟩ := ended'
  obtain ⟨noFault, adrift, f, rfl, ordinary⟩ := Site.acquire_timeless
    (p := ⟨(config.cappedAt cap).limiter 0, world, subject, false, true, false⟩)
    abreast.stands.noFault timeless rfl ⟨rfl, rfl⟩ tried
  obtain ⟨noFault', adrift', f', rfl, ordinary'⟩ := Site.acquire_timeless
    (p := ⟨(config.cappedAt cap').limiter 0, world, subject, false, true, false⟩)
    abreast.stands'.noFault timeless' rfl ⟨rfl, rfl⟩ tried'
  obtain ⟨logs, opened⟩ := Limiter.recordFailure_of_unacquired
    (l := (config.cappedAt cap).limiter 0) tried ordinary
  obtain ⟨logs', opened'⟩ := Limiter.recordFailure_of_unacquired
    (l := (config.cappedAt cap').limiter 0) tried' ordinary'
  simp only [PairMove.step, Step.run, Call.routine, Routine.run_map, opened] at run
  simp only [PairMove.step, Step.run, Call.routine, Routine.run_map, opened'] at run'
  cases run
  cases run'
  have other : ∀ k, k = attemptsKey world subject → k ≠ lockKey world subject := by
    rintro k rfl
    exact attemptsKey_ne_lockKey world subject
  have stands := abreast.stands.drift noFault adrift.epoch adrift.later (by simp)
    fun k hk => adrift.others k (other k hk)
  have stands' := abreast.stands'.drift noFault' adrift'.epoch adrift'.later (by simp)
    fun k hk => adrift'.others k (other k hk)
  refine ⟨rfl, _, _, ⟨stands.noFault, stands.now, stands.past, stands.inRange, stands.free,
    stands.finds⟩, ⟨stands'.noFault, stands'.now, stands'.past, stands'.inRange, stands'.free,
    stands'.finds⟩, ?_, ⟨alike.epoch, alike.elapsed, alike.faults, alike.tokens, alike.skews,
    alike.entries⟩, ?_, ?_, ?_⟩
  · rw [← alike.epoch, ← alike.elapsed]
    refine abreast.leads.later ?_
    have now := abreast.stands.now
    have epoch : t.epoch = s.epoch := adrift.epoch
    have later : s.elapsed ≤ t.elapsed := adrift.later
    omega
  · rw [show t.skews = s.skews from adrift.skews, abreast.skew]
  · exact Int.le_trans abreast.started adrift.later
  · exact fun read => absurd read (timeless.later adrift.later).not_monotonic

/-- Both make an attempt, at an instant in the range of binary64 numbers: what is turned away under
    the higher cap is under the lower one. -/
theorem attempt (abreast : Abreast config skew cap cap' world subject s s' r r')
    (lasting : Register.Lasting config) (inRange : inBinary64Range r.now) {s₁ s₁' : System}
    {result result' : CallResult}
    (run : Step.run (config.cappedAt cap) s (PairMove.attempt.step world subject) = (s₁, result))
    (run' : Step.run (config.cappedAt cap') s' (PairMove.attempt.step world subject)
      = (s₁', result')) :
    (result' = .flag true → result = .flag true)
      ∧ ∃ r₁ r₁', Abreast config skew cap cap' world subject s₁ s₁' r₁ r₁' := by
  rcases System.monotonic_or_timeless abreast.started with monotonic | timeless
  · -- Each acquires its lock, and comes to what its register says.
    have free := abreast.free monotonic
    have free' : s'.get? (lockKey world subject) = none := by
      rw [← abreast.alike.entries _ rfl]
      exact free
    have readable : Register.Readable s.epoch skew s.elapsed := by
      refine ⟨?_, monotonic⟩
      rw [← abreast.stands.now]
      exact inRange
    have readable' : Register.Readable s'.epoch skew s'.elapsed := by
      rw [← abreast.alike.epoch, ← abreast.alike.elapsed]
      exact readable
    have skew' : s'.skews.getD 0 0 = skew := by
      rw [← abreast.alike.skews]
      exact abreast.skew
    obtain ⟨told, same, tokens, lock, stands⟩ :=
      abreast.stands.attempt lasting abreast.skew free readable run
    obtain ⟨told', same', tokens', lock', stands'⟩ :=
      abreast.stands'.attempt lasting skew' free' readable' run'
    have elapsed : s₁.elapsed = s.elapsed := same.now
    constructor
    · intro full
      rw [told', CallResult.flag.injEq] at full
      rw [told, abreast.leads.limited full]
    · refine ⟨_, _, stands, stands', abreast.leads.attempt, ?_, ?_, ?_, fun _ => lock⟩
      · refine abreast.alike_of same same' stands.noFault stands'.noFault ?_ ?_
        · rw [tokens, tokens', abreast.alike.tokens]
        · rw [lock, lock']
      · rw [show s₁.skews = s.skews from same.skews, abreast.skew]
      · rw [elapsed]
        exact abreast.started
  · obtain ⟨told, abreast'⟩ := abreast.attempt_timeless timeless run run'
    refine ⟨fun full => ?_, abreast'⟩
    rw [told] at full
    cases full

/-- What both find in their windows. -/
theorem windowed (abreast : Abreast config skew cap cap' world subject s s' r r') :
    ∃ timestamps timestamps',
      s.Windowed ((config.cappedAt cap).limiter 0) (attemptsKey world subject) timestamps
      ∧ s'.Windowed ((config.cappedAt cap').limiter 0) (attemptsKey world subject) timestamps'
      ∧ timestamps.Sublist timestamps' := by
  have skew' : s'.skews.getD 0 0 = skew := by
    rw [← abreast.alike.skews]
    exact abreast.skew
  refine ⟨_, _, ⟨r.now, ?_, abreast.stands.finds_now rfl⟩,
    ⟨r'.now, ?_, abreast.stands'.finds_now rfl⟩, abreast.leads.inWindow⟩
  · rw [abreast.stands.now, ← abreast.skew]
    rfl
  · rw [abreast.stands'.now, ← skew']
    rfl

/-- Both make a move. -/
theorem next (abreast : Abreast config skew cap cap' world subject s s' r r') (caps : cap ≤ cap')
    (lasting : Register.Lasting config) (move : PairMove)
    (inRange : move = .attempt → inBinary64Range r.now) :
    ((Step.run (config.cappedAt cap') s' (move.step world subject)).2 = .flag true →
        (Step.run (config.cappedAt cap) s (move.step world subject)).2 = .flag true)
      ∧ ∃ r₁ r₁', Abreast config skew cap cap' world subject
        (Session.next (config.cappedAt cap) s (move.step world subject))
        (Session.next (config.cappedAt cap') s' (move.step world subject)) r₁ r₁' := by
  unfold Session.next
  generalize run : Step.run (config.cappedAt cap) s (move.step world subject) = done
  generalize run' : Step.run (config.cappedAt cap') s' (move.step world subject) = done'
  obtain ⟨s₁, result⟩ := done
  obtain ⟨s₁', result'⟩ := done'
  cases move with
  | attempt =>
    obtain ⟨less, _, _, abreast'⟩ := abreast.attempt lasting (inRange rfl) run run'
    exact ⟨less, _, _, abreast'.observe _ _ _ _⟩
  | clear =>
    obtain ⟨told, abreast'⟩ := abreast.clear caps run run'
    refine ⟨fun full => ?_, _, _, abreast'.observe _ _ _ _⟩
    rw [told] at full
    cases full
  | wait ms =>
    cases run
    cases run'
    exact ⟨nofun, _, _, (abreast.wait ms).observe _ _ _ _⟩

/-- Both make the same moves. -/
theorem run (lasting : Register.Lasting config) (caps : cap ≤ cap') {moves : List PairMove}
    (abreast : Abreast config skew cap cap' world subject s s' r r')
    (inRange : ∀ (i : Nat) (now : Int), moves[i]? = some .attempt →
      (Session.after (config.cappedAt cap) s ((moves.take i).map (·.step world subject))).read
        (.skewed 0) = .ok now → inBinary64Range now) :
    let steps := moves.map (·.step world subject)
    (∀ i : Nat, (Session.results (config.cappedAt cap') s' steps)[i]? = some (.flag true) →
        (Session.results (config.cappedAt cap) s steps)[i]? = some (.flag true))
      ∧ ∀ i, ∃ r₁ r₁', Abreast config skew cap cap' world subject
        (Session.after (config.cappedAt cap) s (steps.take i))
        (Session.after (config.cappedAt cap') s' (steps.take i)) r₁ r₁' := by
  induction moves generalizing s s' r r' with
  | nil =>
    refine ⟨nofun, fun i => ⟨r, r', ?_⟩⟩
    rw [List.map_nil, List.take_nil]
    exact abreast
  | cons move rest ih =>
    have reading : s.read (.skewed 0) = .ok r.now := by
      rw [abreast.stands.now, ← abreast.skew]
      rfl
    obtain ⟨less, r₁, r₁', abreast'⟩ := abreast.next caps lasting move
      fun made => inRange 0 r.now (by rw [made]; rfl) reading
    obtain ⟨fewer, further⟩ := ih abreast' fun i now made => inRange (i + 1) now made
    constructor
    · intro i full
      rw [List.map_cons, Session.results_cons] at full ⊢
      cases i with
      | zero => exact congrArg some (less (Option.some.inj full))
      | succ i => exact fewer i full
    · intro i
      cases i with
      | zero => exact ⟨r, r', abreast⟩
      | succ i => exact further i

end Abreast

end

/-- **Raising the cap blocks no more.** Two limiters that differ in their caps alone make the same
    moves on one pair, each on a store without faults that holds neither a record nor a lock of the
    pair. Records outlast the window, free locks are acquired, and whenever an attempt is made the
    limiter's clock is in the range of binary64 numbers. Then each attempt that the higher cap turns
    away is turned away by the lower one, and at every point the timestamps that lie in the window
    under the lower cap are some of those under the higher one, in the same order. -/
theorem raising_cap_blocks_no_more {config : LimiterConfig} {cap cap' : Int}
    {world subject : String} {s : System} {moves : List PairMove} (caps : cap ≤ cap')
    (keep : max 1 config.windowSeconds ≤ config.recordSeconds) (ttl : 1 ≤ config.lock.ttl)
    (retries : 0 ≤ config.lock.retries) (noFault : s.faults = []) (started : 0 ≤ s.elapsed)
    (fresh : s.get? (attemptsKey world subject) = none)
    (free : s.get? (lockKey world subject) = none)
    (inRange : ∀ (i : Nat) (now : Int), moves[i]? = some .attempt →
      (Session.after (config.cappedAt cap) s ((moves.take i).map (·.step world subject))).read
        (.skewed 0) = .ok now → inBinary64Range now) :
    let steps := moves.map (·.step world subject)
    (∀ i : Nat, (Session.results (config.cappedAt cap') s steps)[i]? = some (.flag true) →
        (Session.results (config.cappedAt cap) s steps)[i]? = some (.flag true))
      ∧ ∀ i, ∃ timestamps timestamps',
        (Session.after (config.cappedAt cap) s (steps.take i)).Windowed
          ((config.cappedAt cap).limiter 0) (attemptsKey world subject) timestamps
        ∧ (Session.after (config.cappedAt cap') s (steps.take i)).Windowed
          ((config.cappedAt cap').limiter 0) (attemptsKey world subject) timestamps'
        ∧ timestamps.Sublist timestamps' := by
  let r : Register := ⟨s.epoch + s.elapsed + s.skews.getD 0 0, fun _ => []⟩
  have stands : ∀ c, Register.Stands { config with cap := c } (s.skews.getD 0 0)
      (· = attemptsKey world subject) (fun _ => False) s r := by
    intro c
    refine ⟨noFault, rfl, fun k n hn => absurd hn List.not_mem_nil,
      fun k n hn => absurd hn List.not_mem_nil, fun k hk => hk.elim, ?_⟩
    rintro k rfl t ht
    exact Register.finds_nil _ (Store.get?_eq_none_later ht fresh)
  have abreast : Abreast config (s.skews.getD 0 0) cap cap' world subject s s r r := by
    refine ⟨stands cap, stands cap', ⟨rfl, .refl _, ?_⟩, ⟨rfl, rfl, rfl, rfl, rfl, fun _ _ => rfl⟩,
      rfl, started, fun _ => free⟩
    simpa [Register.inWindow] using caps
  obtain ⟨fewer, further⟩ := abreast.run ⟨keep, ttl, retries⟩ caps inRange
  refine ⟨fewer, fun i => ?_⟩
  obtain ⟨_, _, abreast'⟩ := further i
  exact abreast'.windowed

/-- Attempts just before the end of a window, and one after it. -/
def sixMoves : List PairMove :=
  [.attempt, .wait 59000, .attempt, .attempt, .wait 1500, .attempt]

/-- The third attempt is too many for a cap of two, and so it is for a cap of one. -/
theorem raising_cap_blocks_no_more_of_sixMoves :
    (Session.results (({} : LimiterConfig).cappedAt 1) {} (sixMoves.map (·.step "w" "s")))[3]?
      = some (.flag true) := by
  have readings : ∀ i < sixMoves.length,
      ((Session.after (({} : LimiterConfig).cappedAt 1) {}
        ((sixMoves.take i).map (·.step "w" "s"))).read (.skewed 0)).toOption.all
          inBinary64Range := by
    decide +kernel
  have inRange : ∀ (i : Nat) (now : Int), sixMoves[i]? = some .attempt →
      (Session.after (({} : LimiterConfig).cappedAt 1) {}
        ((sixMoves.take i).map (·.step "w" "s"))).read (.skewed 0) = .ok now →
      inBinary64Range now := by
    intro i now made read
    have known := readings i (List.getElem?_eq_some_iff.1 made).1
    rw [read] at known
    exact known
  refine (@raising_cap_blocks_no_more {} 1 2 "w" "s" {} sixMoves (by decide) (by decide)
    (by decide) (by decide) rfl (by decide) rfl rfl inRange).1 3 ?_
  have full : ((Session.results (({} : LimiterConfig).cappedAt 2) {}
      (sixMoves.map (·.step "w" "s")))[3]?).bind CallResult.flag? = some true := by
    decide +kernel
  obtain ⟨result, told, flag⟩ := Option.bind_eq_some_iff.1 full
  rw [told, CallResult.eq_of_flag? flag]

end Turnstile

import Turnstile.Proofs.Run.Only

set_option autoImplicit false

/-! # Systems that look alike

To a task whose commands are all about a few keys, two systems look alike when they have the same
time, clocks, faults and tokens and the same live entries under those keys; whatever else they hold,
the task cannot tell. Run alone in either it comes to the same result, leaves the two alike, and
adds the same to their traces, logs and counters (`Proc.Only.alike`). -/

namespace Turnstile

/-- Two systems differ in nothing that a task can tell whose commands are about the given keys. -/
structure System.Alike (keys : String → Prop) (s s' : System) : Prop where
  epoch : s.epoch = s'.epoch
  elapsed : s.elapsed = s'.elapsed
  faults : s.faults = s'.faults
  tokens : s.tokens = s'.tokens
  skews : s.skews = s'.skews
  entries : ∀ k, keys k → s.get? k = s'.get? k

/-- The effect is none of the operator's and reads no counter or handle, and if it is a command then
    about one of the given keys. -/
def Effect.Within (keys : String → Prop) : Effect → Prop
  | .command c => ∀ k, c.key? = some k → keys k
  | .countRequest .. | .exposition | .operate _ | .handle _ => False
  | _ => True

/-! ## What is added -/

/-- What tasks leave behind beside the store: entries of the trace, lines of the log and outcomes
    that were counted. -/
structure Notes where
  trace : List TraceEntry := []
  logs : List LogEntry := []
  outcomes : List AttemptOutcome := []

/-- Some notes and then more. -/
def Notes.append (first second : Notes) : Notes where
  trace := first.trace ++ second.trace
  logs := first.logs ++ second.logs
  outcomes := first.outcomes ++ second.outcomes

/-- The second system has noted what the first has, and then these notes. -/
structure System.Gains (s : System) (notes : Notes) (s₁ : System) : Prop where
  trace : s₁.trace = s.trace ++ notes.trace
  logs : s₁.logs = s.logs ++ notes.logs
  outcomes : s₁.metrics.outcomes
    = notes.outcomes.foldl (fun tally outcome => tally.bump outcome.name) s.metrics.outcomes

namespace System.Gains

theorem nothing {s s₁ : System} (trace : s₁.trace = s.trace) (logs : s₁.logs = s.logs)
    (metrics : s₁.metrics = s.metrics) : s.Gains {} s₁ :=
  ⟨trace.trans (List.append_nil _).symm, logs.trans (List.append_nil _).symm,
    congrArg Metrics.outcomes metrics⟩

theorem wait {s s₁ : System} {notes : Notes} (h : s.Gains notes s₁) (ms : Int) :
    s.Gains notes (s₁.wait ms) :=
  ⟨h.trace, h.logs, h.outcomes⟩

theorem trans {s s₁ s₂ : System} {first second : Notes} (h : s.Gains first s₁)
    (k : s₁.Gains second s₂) : s.Gains (first.append second) s₂ where
  trace := by rw [k.trace, h.trace, List.append_assoc]; rfl
  logs := by rw [k.logs, h.logs, List.append_assoc]; rfl
  outcomes := by rw [k.outcomes, h.outcomes, Notes.append, List.foldl_append]

/-- Notes that count outcomes add to the counters. -/
theorem count_outcomes {s s₁ : System} {notes : Notes} (h : s.Gains notes s₁) (o : AttemptOutcome) :
    s₁.metrics.outcomes.count o.name
      = s.metrics.outcomes.count o.name + notes.outcomes.count o := by
  rw [h.outcomes]
  generalize notes.outcomes = counted
  generalize s.metrics.outcomes = tally
  induction counted generalizing tally with
  | nil => rfl
  | cons x rest ih =>
    rw [List.foldl_cons, ih, Tally.count_bump, List.count_cons, Nat.add_assoc,
      Nat.add_comm (ite ..)]
    simp only [AttemptOutcome.name_injective.eq_iff, beq_iff_eq]

end System.Gains

/-! ## One effect -/

section

variable {keys : String → Prop} {s s' : System}

/-- Systems that look alike do so after time has passed. -/
theorem System.Alike.wait (alike : s.Alike keys s') (ms : Int) :
    (s.wait ms).Alike keys (s'.wait ms) where
  epoch := alike.epoch
  elapsed := congrArg (· + max 0 ms) alike.elapsed
  faults := alike.faults
  tokens := alike.tokens
  skews := alike.skews
  entries k hk := by
    have now := alike.entries k hk
    simp only [System.get?, System.wait, ← alike.elapsed] at now ⊢
    exact Store.get?_congr_later (by omega) now

/-- In systems that look alike an effect is issued alike. -/
theorem System.Alike.issue (alike : s.Alike keys s') (task : Nat) (e : Effect) :
    (e.issue task s).delay = (e.issue task s').delay
      ∧ (e.issue task s).action = (e.issue task s').action
      ∧ (e.issue task s).system.Alike keys (e.issue task s').system
      ∧ ∃ notes, s.Gains notes (e.issue task s).system
        ∧ s'.Gains notes (e.issue task s').system := by
  cases e with
  | command c =>
    refine ⟨?_, ?_, ⟨alike.epoch, alike.elapsed, ?_, alike.tokens, alike.skews, alike.entries⟩,
      {}, .nothing rfl rfl rfl, .nothing rfl rfl rfl⟩
    all_goals simp only [Effect.issue, alike.faults]
  | pause ms =>
    refine ⟨rfl, rfl, ⟨alike.epoch, alike.elapsed, alike.faults, alike.tokens, alike.skews,
      alike.entries⟩, { trace := [⟨s.elapsed, task, .pause ms⟩] }, ⟨rfl, ?_, rfl⟩, ⟨?_, ?_, rfl⟩⟩
    · exact (List.append_nil _).symm
    · rw [alike.elapsed]
      rfl
    · exact (List.append_nil _).symm
  | _ => exact ⟨rfl, rfl, alike, {}, .nothing rfl rfl rfl, .nothing rfl rfl rfl⟩

/-- In systems that look alike an effect within the keys is answered the same, and leaves them
    alike. -/
theorem System.Alike.perform (alike : s.Alike keys s') (task : Nat) (action : FaultAction)
    {e : Effect} (within : e.Within keys) :
    (e.perform task action s).2 = (e.perform task action s').2
      ∧ (e.perform task action s).1.Alike keys (e.perform task action s').1
      ∧ ∃ notes, s.Gains notes (e.perform task action s).1
        ∧ s'.Gains notes (e.perform task action s').1 := by
  obtain ⟨epoch, elapsed, store, faults, tokens, skews, handles, metrics, trace, logs⟩ := s
  obtain ⟨_, _, store', _, _, _, handles', metrics', trace', logs'⟩ := s'
  obtain ⟨⟨⟩, ⟨⟩, ⟨⟩, ⟨⟩, ⟨⟩, entries⟩ := alike
  cases e with
  | command c =>
    have reply : (action.apply elapsed store c).2 = (action.apply elapsed store' c).2 :=
      action.reply_apply_congr fun k hk => entries k (within k hk)
    refine ⟨reply, ⟨rfl, rfl, rfl, rfl, rfl, fun k hk => ?_⟩,
      { trace := [⟨elapsed, task, .command c (action.apply elapsed store c).2⟩] },
      ⟨rfl, (List.append_nil _).symm, rfl⟩, ?_, (List.append_nil _).symm, rfl⟩
    · exact action.get?_apply_congr (entries k hk) (entries k hk) c
    · rw [reply]
      rfl
  | log entry =>
    exact ⟨rfl, ⟨rfl, rfl, rfl, rfl, rfl, entries⟩, { logs := [entry] },
      ⟨(List.append_nil _).symm, rfl, rfl⟩, ⟨(List.append_nil _).symm, rfl, rfl⟩⟩
  | countOutcome outcome =>
    exact ⟨rfl, ⟨rfl, rfl, rfl, rfl, rfl, entries⟩, { outcomes := [outcome] },
      ⟨(List.append_nil _).symm, (List.append_nil _).symm, rfl⟩,
      ⟨(List.append_nil _).symm, (List.append_nil _).symm, rfl⟩⟩
  | clock source =>
    refine ⟨?_, ⟨rfl, rfl, rfl, rfl, rfl, entries⟩, {}, .nothing rfl rfl rfl, .nothing rfl rfl rfl⟩
    cases source <;> rfl
  | freshToken | monotonic | pause | wait =>
    exact ⟨rfl, ⟨rfl, rfl, rfl, rfl, rfl, entries⟩, {}, .nothing rfl rfl rfl, .nothing rfl rfl rfl⟩
  | countRequest | exposition | operate | handle => exact within.elim

end

/-! ## A whole run -/

/-- **What a task cannot tell.** A process whose commands are about given keys, and which runs alone
    in one or the other of two systems that look alike on those keys, comes to the same result in
    both, leaves them alike, and adds the same notes to both. -/
theorem Proc.Only.alike {α : Type} {keys : String → Prop} {p : Proc α}
    (only : p.Only (Effect.Within keys)) (task : Nat) {s s' : System} (alike : s.Alike keys s') :
    (p.run task s).2 = (p.run task s').2 ∧ (p.run task s).1.Alike keys (p.run task s').1
      ∧ ∃ notes, s.Gains notes (p.run task s).1 ∧ s'.Gains notes (p.run task s').1 := by
  induction p generalizing s s' with
  | done a => exact ⟨rfl, alike, {}, .nothing rfl rfl rfl, .nothing rfl rfl rfl⟩
  | perform e next ih =>
    obtain ⟨delay, met, issued, said, gains, gains'⟩ := alike.issue task e
    have waited := issued.wait (e.issue task s).delay
    obtain ⟨answer, performed, more, adds, adds'⟩ :=
      waited.perform task (e.issue task s).action only.1
    obtain ⟨result, alike', most, all, all'⟩ := ih _ (only.2 _) performed
    simp only [run, ← delay, ← met, ← answer]
    exact ⟨result, alike', (said.append more).append most, ((gains.wait _).trans adds).trans all,
      ((gains'.wait _).trans adds').trans all'⟩

end Turnstile

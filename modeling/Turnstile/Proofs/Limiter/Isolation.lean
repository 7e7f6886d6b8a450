import Turnstile.Proofs.Limiter.Keys
import Turnstile.Proofs.Run.Alike

set_option autoImplicit false

/-! # Isolation

A call on the limiter or the guard has to do with two entries of the store, the record of its pair
and the lock of that. It leaves every other entry as it is, and no other entry bears on it: in two
systems that look alike on the two keys (`System.Alike`) it comes to the same result, leaves the
systems alike and adds the same to their traces, logs and counters (`Call.isolated`). This holds
whatever comes in the way of its commands, as long as it is the same in both. -/

namespace Turnstile

/-- The key is that of the site's record or of its lock. -/
def Site.Owns (p : Site) (k : String) : Prop := k = p.key ∨ k = p.lock

/-- What a call does is within the keys of its own pair. -/
theorem Site.Step.within {p : Site} {stage stage' : Stage} {e : Event}
    (step : p.Step stage e stage') : e.effect.Within p.Owns := by
  obtain ⟨time, task, effect, action, answer⟩ := e
  cases effect with
  | command c =>
    intro k about
    rcases step.key?_eq rfl with own | own
    · exact .inl (Option.some.inj (about.symm.trans own))
    · exact .inr (Option.some.inj (about.symm.trans own))
  | countRequest | exposition | operate | handle => nomatch step
  | _ => trivial

/-- **Isolation.** Whatever comes in the way of its commands, a call on the limiter or the guard
    leaves all entries as they are but those under the two keys of its own pair. In two systems that
    look alike on these keys it comes to the same result or failure, leaves the systems alike on
    them, and adds the same commands to the trace, the same lines to the log and the same outcomes
    to the counters. -/
theorem Call.isolated {instances : Instances} {call : Call} {p : Site}
    (at_ : call.site? instances = some p) :
    (∀ (s : System) (k : String), ¬p.Owns k → ∀ t,
        (Step.run instances s (.call call)).1.store.get? t k = s.store.get? t k)
      ∧ ∀ s s' : System, s.Alike p.Owns s' →
        let ran := Step.run instances s (.call call)
        let ran' := Step.run instances s' (.call call)
        ran.2 = ran'.2 ∧ ran.1.Alike p.Owns ran'.1
          ∧ ∃ notes, s.Gains notes ran.1 ∧ s'.Gains notes ran'.1 := by
  constructor
  · intro s k other t
    exact Call.get?_run at_ s (fun same => other (.inl same)) (fun same => other (.inr same)) t
  · intro s s' alike
    have within : (call.routine instances).Only (Effect.Within p.Owns) :=
      Proc.Obeys.only (call.obeys at_ 0) fun _ _ _ step => Site.Step.within step
    obtain ⟨result, after, notes, gains, gains'⟩ := Proc.Only.alike within 0 alike
    exact ⟨congrArg CallResult.ofExcept result, after, notes, gains, gains'⟩

/-- The first write of a lock is late, and its answer is lost. -/
def lostAnswer : System where
  faults := [{ kind := .setIfAbsent, latency := 20, action := .fail .timeout "lost" true }]

/-- The same, with a record of another world and a line in the log. -/
def lostAnswerBeside : System :=
  { lostAnswer with
    store := ⟨[(attemptsKey "us" "10.0.0.1", ⟨"\x7b\"attempts\": [1]\x7d", none⟩)]⟩
    logs := [⟨.info, .app, "started"⟩] }

/-- The record of another world neither bears on an attempt nor is changed by it. -/
theorem Call.isolated_of_lostAnswer :
    let call := Step.call (.record 0 "eu" "10.0.0.1")
    let ran := Step.run single lostAnswer call
    let ran' := Step.run single lostAnswerBeside call
    ran'.1.store.get? 0 (attemptsKey "us" "10.0.0.1")
        = lostAnswerBeside.store.get? 0 (attemptsKey "us" "10.0.0.1")
      ∧ ran.2 = ran'.2
      ∧ ∃ notes, lostAnswer.Gains notes ran.1 ∧ lostAnswerBeside.Gains notes ran'.1 := by
  let p : Site := ⟨single.limiter 0, "eu", "10.0.0.1", false, true, false⟩
  have at_ : (Call.record 0 "eu" "10.0.0.1").site? single = some p := rfl
  obtain ⟨leaves, tells⟩ := Call.isolated at_
  have other : ¬p.Owns (attemptsKey "us" "10.0.0.1") := by
    rintro (same | same) <;> revert same <;> decide +kernel
  have alike : lostAnswer.Alike p.Owns lostAnswerBeside := by
    refine ⟨rfl, rfl, rfl, rfl, rfl, ?_⟩
    rintro k (rfl | rfl) <;> decide +kernel
  obtain ⟨result, -, notes⟩ := tells lostAnswer lostAnswerBeside alike
  exact ⟨leaves lostAnswerBeside _ other 0, result, notes⟩

end Turnstile

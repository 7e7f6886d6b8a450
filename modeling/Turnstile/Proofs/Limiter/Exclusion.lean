import Turnstile.Proofs.Limiter.Stages
import Turnstile.Proofs.Store.Commands

set_option autoImplicit false

/-! # Mutual exclusion

As long as its lock has not run out, a call that acquired it is the only one: the lock's entry holds
the call's token (`Exclusive.held`), and no two calls drew the same (`Exclusive.unique`). This is so
where commands only meet delays and no record is kept under the key of a lock. -/

namespace Turnstile

/-! ## What an event leaves alone -/

/-- An event that is no command about a key leaves the entry under it as it is. -/
theorem World.get?_add_of_ne (v : World) (e : Event) (k : String)
    (h : ∀ c, e.effect = .command c → c.key? ≠ some k) (t : Int) :
    (v.add e).store.get? t k = v.store.get? t k := by
  obtain ⟨time, task, effect, action, answer⟩ := e
  cases effect with
  | command c => exact action.get?_apply_of_ne v.now t v.store c k (h c rfl)
  | _ => rfl

theorem World.tokens_add_of_ne (v : World) (e : Event) (h : e.effect ≠ .freshToken) :
    (v.add e).tokens = v.tokens := by
  obtain ⟨time, task, effect, action, answer⟩ := e
  cases effect with
  | freshToken => exact absurd rfl h
  | _ => rfl

/-! ## What a step has to do with locks -/

/-- A step that has nothing to do with locks: it neither draws a token nor issues a command about a
    lock, and acquires none. -/
structure Site.LeavesLocks (p : Site) (stage : Stage) (e : Event) (stage' : Stage) : Prop where
  command : ∀ c, e.effect = .command c → c.key? = some p.key
  effect : e.effect ≠ .freshToken
  hold : ∀ h, stage'.hold? = some h → stage.hold? = some h
  token : ∀ n, stage'.token? = some n → stage.token? = some n

theorem Site.hold?_seen (reply : Except Failure Json) :
    (Site.seen reply).hold? = none ∧ (Site.seen reply).token? = none := by
  rw [seen]
  split
  · exact ⟨rfl, rfl⟩
  · rw [Stage.unseen]
    split <;> exact ⟨rfl, rfl⟩

theorem Site.hold?_weigh (p : Site) (value : Json) (reading : Except Failure Int) :
    (p.weigh value reading).hold? = none ∧ (p.weigh value reading).token? = none := by
  rw [weigh]
  split
  · exact ⟨rfl, rfl⟩
  · rw [Stage.unseen]
    split <;> exact ⟨rfl, rfl⟩

theorem Site.hold?_dropped (reply : Except Failure Json) :
    (Site.dropped reply).hold? = none ∧ (Site.dropped reply).token? = none := by
  fun_cases dropped reply <;> exact ⟨rfl, rfl⟩

theorem Site.leavesLocks_handled (hold : Hold) (reading : Except Failure Binary64) :
    (∀ h, (handled hold reading).hold? = some h → hold = h)
      ∧ ∀ n, (handled hold reading).token? = some n → hold.token = n := by
  cases reading <;> simp [handled, Stage.hold?, Stage.token?]

/-- A step leaves locks alone, or draws a token, tries for the lock or releases it. -/
theorem Site.Step.lock_cases {p : Site} {stage stage' : Stage} {e : Event}
    (step : p.Step stage e stage') :
    p.LeavesLocks stage e stage'
    ∨ (∃ time task action token, e = ⟨time, task, .freshToken, action, token⟩
        ∧ stage' = .trying token false)
    ∨ (∃ token again time task action reply, stage = .trying token again
        ∧ e = ⟨time, task, .command (.setIfAbsent p.lock (tokenText token) p.ttl), action, reply⟩
        ∧ stage' = tried token time reply)
    ∨ (∃ hold outcome time task action reply, stage = .inside hold (.closing outcome)
        ∧ e = ⟨time, task, .command (.deleteIfEqual p.lock (tokenText hold.token)), action, reply⟩
        ∧ stage' = .finished (released outcome reply)) := by
  cases step with
  | draw may isOpen => exact .inr (.inl ⟨_, _, _, _, rfl, rfl⟩)
  | contend => exact .inr (.inr (.inl ⟨_, _, _, _, _, _, rfl, rfl, rfl⟩))
  | release => exact .inr (.inr (.inr ⟨_, _, _, _, _, _, rfl, rfl, rfl⟩))
  | look =>
    left
    refine ⟨fun c hc => ?_, by simp, ?_, ?_⟩
    · cases hc
      rfl
    · simp [hold?_seen]
    · simp [hold?_seen]
  | weigh =>
    left
    refine ⟨fun c hc => (nomatch hc), by simp, ?_, ?_⟩
    · simp [hold?_weigh]
    · simp [hold?_weigh]
  | drop may isOpen =>
    left
    refine ⟨fun c hc => ?_, by simp, ?_, ?_⟩
    · cases hc
      rfl
    · simp [hold?_dropped]
    · simp [hold?_dropped]
  | handle =>
    left
    refine ⟨fun c hc => (nomatch hc), by simp, fun h hh => ?_, fun n hn => ?_⟩
    · exact congrArg some ((leavesLocks_handled _ _).1 h hh)
    · exact congrArg some ((leavesLocks_handled _ _).2 n hn)
  | judge | write =>
    left
    refine ⟨fun c hc => ?_, by simp, fun _ h => h, fun _ h => h⟩
    cases hc
    rfl
  | log | count | wait | pause | time | prepare | allow =>
    left
    exact ⟨fun c hc => (nomatch hc), by simp, fun _ h => h, fun _ h => h⟩

/-! ## The invariant -/

/-- What holds of the locks and tokens of calls, each on its own site. -/
structure Exclusive (sites : Nat → Site) (v : World) (stages : Nat → Stage) : Prop where
  drawn : ∀ i n, (stages i).token? = some n → n ≤ v.tokens
  apart : ∀ i j n, (stages i).token? = some n → (stages j).token? = some n → i = j
  past : ∀ i h, (stages i).hold? = some h → h.since ≤ v.now
  held : ∀ i h, (stages i).hold? = some h → v.now < h.since + (sites i).ttl →
    v.store.get? v.now (sites i).lock
      = some ⟨tokenText h.token, some (h.since + (sites i).ttl)⟩

theorem Stage.token?_of_hold? {stage : Stage} {h : Hold} (hh : stage.hold? = some h) :
    stage.token? = some h.token := by
  cases stage with
  | inside hold phase =>
    cases hh
    rfl
  | _ => cases hh

namespace Exclusive

variable {sites : Nat → Site} {v : World} {stages : Nat → Stage}

/-- Two calls that hold the same lock, which has not run out for either, are one. -/
theorem unique (inv : Exclusive sites v stages) {i j : Nat} {h k : Hold}
    (hi : (stages i).hold? = some h) (hj : (stages j).hold? = some k)
    (lock : (sites i).lock = (sites j).lock) (ti : v.now < h.since + (sites i).ttl)
    (tj : v.now < k.since + (sites j).ttl) : i = j := by
  have same := (inv.held i h hi ti).symm.trans (lock ▸ inv.held j k hj tj)
  simp only [Option.some.injEq, Entry.mk.injEq] at same
  have token : h.token = k.token := tokenText_injective same.1
  exact inv.apart i j h.token (Stage.token?_of_hold? hi) (token ▸ Stage.token?_of_hold? hj)

theorem start (tokens : ∀ i, stages i = .delayed) : Exclusive sites v stages := by
  constructor <;> intro i <;> simp [tokens, Stage.token?, Stage.hold?]

/-- Time only lets locks run out. -/
theorem pass (inv : Exclusive sites v stages) {t : Int} (later : v.now ≤ t) :
    Exclusive sites (v.atTime t) stages where
  drawn := inv.drawn
  apart := inv.apart
  past i h hi := Int.le_trans (inv.past i h hi) later
  held i h hi ht := by
    have ht' : t < h.since + (sites i).ttl := ht
    exact Store.get?_later (inv.held i h hi (by omega)) (decide_eq_true ht')

/-- It takes no more than the store, the time and the tokens drawn. -/
theorem congr (inv : Exclusive sites v stages) {v' : World} (store : v'.store = v.store)
    (now : v'.now = v.now) (tokens : v'.tokens = v.tokens) : Exclusive sites v' stages where
  drawn i n hn := tokens ▸ inv.drawn i n hn
  apart := inv.apart
  past i h hi := now ▸ inv.past i h hi
  held i h hi ht := by
    rw [store, now]
    exact inv.held i h hi (now ▸ ht)

/-- It takes no more of the stages than the locks held and the tokens. -/
theorem restage (inv : Exclusive sites v stages) {stages' : Nat → Stage}
    (hold : ∀ i, (stages' i).hold? = (stages i).hold?)
    (token : ∀ i, (stages' i).token? = (stages i).token?) : Exclusive sites v stages' where
  drawn i n hn := inv.drawn i n (token i ▸ hn)
  apart i j n hi hj := inv.apart i j n (token i ▸ hi) (token j ▸ hj)
  past i h hi := inv.past i h (hold i ▸ hi)
  held i h hi := inv.held i h (hold i ▸ hi)

/-- A step that leaves locks alone keeps them as they are. -/
theorem leaves (inv : Exclusive sites v stages) (separate : ∀ i j, (sites i).key ≠ (sites j).lock)
    {e : Event} {stage : Stage} (h : (sites e.task).LeavesLocks (stages e.task) e stage) :
    Exclusive sites (v.add e) (Function.update stages e.task stage) := by
  have token : ∀ i n, (Function.update stages e.task stage i).token? = some n →
      (stages i).token? = some n := by
    intro i n hn
    by_cases hi : i = e.task
    · subst hi
      rw [Function.update_self] at hn
      exact h.token n hn
    · rwa [Function.update_of_ne hi] at hn
  have hold : ∀ i k, (Function.update stages e.task stage i).hold? = some k →
      (stages i).hold? = some k := by
    intro i k hk
    by_cases hi : i = e.task
    · subst hi
      rw [Function.update_self] at hk
      exact h.hold k hk
    · rwa [Function.update_of_ne hi] at hk
  constructor
  · intro i n hn
    rw [World.tokens_add_of_ne v e h.effect]
    exact inv.drawn i n (token i n hn)
  · intro i j n hi hj
    exact inv.apart i j n (token i n hi) (token j n hj)
  · intro i k hk
    exact inv.past i k (hold i k hk)
  · intro i k hk ht
    have other : ∀ c, e.effect = .command c → c.key? ≠ some (sites i).lock := by
      intro c hc hkey
      rw [h.command c hc, Option.some.injEq] at hkey
      exact separate _ _ hkey
    rw [World.add_now, World.get?_add_of_ne v e _ other]
    exact inv.held i k (hold i k hk) ht

/-- A token that is drawn is another than those drawn before. -/
theorem draw (inv : Exclusive sites v stages) {time : Int} {task : Nat} {action : FaultAction}
    {token : Nat} (fresh : token = v.tokens + 1) :
    Exclusive sites (v.add ⟨time, task, .freshToken, action, token⟩)
      (Function.update stages task (.trying token false)) := by
  have old : ∀ i n, i ≠ task →
      (Function.update stages task (.trying token false) i).token? = some n →
      (stages i).token? = some n := by
    intro i n hi hn
    rwa [Function.update_of_ne hi] at hn
  have new : ∀ n, (Function.update stages task (.trying token false) task).token? = some n →
      n = v.tokens + 1 := by
    intro n hn
    rw [Function.update_self, Stage.token?, Option.some.injEq] at hn
    rw [← hn, fresh]
  have hold : ∀ i k, (Function.update stages task (.trying token false) i).hold? = some k →
      (stages i).hold? = some k := by
    intro i k hk
    by_cases hi : i = task
    · subst hi
      rw [Function.update_self] at hk
      cases hk
    · rwa [Function.update_of_ne hi] at hk
  constructor
  · intro i n hn
    show n ≤ v.tokens + 1
    by_cases hi : i = task
    · subst hi
      exact Nat.le_of_eq (new n hn)
    · exact Nat.le_succ_of_le (inv.drawn i n (old i n hi hn))
  · -- No token drawn before is as high as the new one.
    intro i j n hi hj
    by_cases hit : i = task <;> by_cases hjt : j = task
    · rw [hit, hjt]
    · subst hit
      have := inv.drawn j n (old j n hjt hj)
      have := new n hi
      omega
    · subst hjt
      have := inv.drawn i n (old i n hit hi)
      have := new n hj
      omega
    · exact inv.apart i j n (old i n hit hi) (old j n hjt hj)
  · intro i k hk
    exact inv.past i k (hold i k hk)
  · intro i k hk ht
    exact inv.held i k (hold i k hk) ht

/-- A call that sets its lock, where the lock is free, holds it from then on. -/
theorem acquire (inv : Exclusive sites v stages) {task token : Nat} {again : Bool}
    (trying : stages task = .trying token again)
    (free : v.store.get? v.now (sites task).lock = none) {s : Store}
    (put : s = v.store.put (sites task).lock
      ⟨tokenText token, some (v.now + (sites task).ttl)⟩) {h : List Event} :
    Exclusive sites { v with store := s, history := h }
      (Function.update stages task (.inside ⟨token, v.now⟩ .granted)) := by
  have tokens : ∀ i, (Function.update stages task (.inside ⟨token, v.now⟩ .granted) i).token?
      = (stages i).token? := by
    intro i
    by_cases hi : i = task
    · rw [hi, Function.update_self, trying]
      rfl
    · rw [Function.update_of_ne hi]
  constructor
  · intro i n hn
    exact inv.drawn i n (tokens i ▸ hn)
  · intro i j n hi hj
    exact inv.apart i j n (tokens i ▸ hi) (tokens j ▸ hj)
  · intro i k hk
    by_cases hi : i = task
    · subst hi
      rw [Function.update_self, Stage.hold?, Option.some.injEq] at hk
      subst hk
      exact Int.le_refl _
    · rw [Function.update_of_ne hi] at hk
      exact inv.past i k hk
  · intro i k hk ht
    show s.get? v.now (sites i).lock = _
    rw [put, Store.get?_put]
    by_cases hi : i = task
    · subst hi
      rw [Function.update_self, Stage.hold?, Option.some.injEq] at hk
      subst hk
      rw [if_pos rfl, Option.filter_some, if_pos]
      simpa [Entry.isLive] using ht
    · rw [Function.update_of_ne hi] at hk
      -- The lock was free, and so it is not the one that another call holds.
      have before := inv.held i k hk ht
      have other : (sites i).lock ≠ (sites task).lock := by
        intro h
        rw [h, free] at before
        cases before
      rw [if_neg other]
      exact before

/-- A lock is set only where no other call holds it. -/
theorem contend (inv : Exclusive sites v stages) {task token : Nat} {again : Bool}
    (trying : stages task = .trying token again) {reply : Except Failure Json}
    (answer : reply
      = (Command.perform v.now v.store
          (.setIfAbsent (sites task).lock (tokenText token) (sites task).ttl)).2) :
    Exclusive sites
      (v.add ⟨v.now, task, .command (.setIfAbsent (sites task).lock (tokenText token)
        (sites task).ttl), .perform, reply⟩)
      (Function.update stages task (Site.tried token v.now reply)) := by
  rcases Command.setIfAbsent_cases v.now v.store (sites task).lock (tokenText token)
    (sites task).ttl with ⟨-, free, hp⟩ | refused
  · have stage : Site.tried token v.now reply = .inside ⟨token, v.now⟩ .granted := by
      rw [answer, hp]
      rfl
    rw [stage]
    exact inv.acquire trying free (congrArg Prod.fst hp)
  · have same : (Command.perform v.now v.store
        (.setIfAbsent (sites task).lock (tokenText token) (sites task).ttl)).1 = v.store := by
      rcases refused with hp | hp <;> rw [hp]
    have stage : Site.tried token v.now reply = .trying token true := by
      rcases refused with hp | hp <;>
      · rw [answer, hp]
        rfl
    have holds : ∀ i, (Function.update stages task (.trying token true) i).hold?
        = (stages i).hold? ∧ (Function.update stages task (.trying token true) i).token?
        = (stages i).token? := by
      intro i
      by_cases hi : i = task
      · rw [hi, Function.update_self, trying]
        exact ⟨rfl, rfl⟩
      · rw [Function.update_of_ne hi]
        exact ⟨rfl, rfl⟩
    rw [stage]
    exact (inv.restage (fun i => (holds i).1) fun i => (holds i).2).congr same rfl rfl

/-- A call that releases its lock deletes no other's entry. -/
theorem release (inv : Exclusive sites v stages) {task : Nat} {hold : Hold} {phase : Phase}
    (inside : stages task = .inside hold phase) {reply : Except Failure Json}
    (outcome : Except Failure Bool) :
    Exclusive sites
      (v.add ⟨v.now, task, .command (.deleteIfEqual (sites task).lock (tokenText hold.token)),
        .perform, reply⟩)
      (Function.update stages task (.finished outcome)) := by
  have other : ∀ i n, (Function.update stages task (.finished outcome) i).token? = some n →
      i ≠ task ∧ (stages i).token? = some n := by
    intro i n hn
    by_cases hi : i = task
    · rw [hi, Function.update_self] at hn
      cases hn
    · exact ⟨hi, by rwa [Function.update_of_ne hi] at hn⟩
  have held : ∀ i k, (Function.update stages task (.finished outcome) i).hold? = some k →
      i ≠ task ∧ (stages i).hold? = some k := by
    intro i k hk
    by_cases hi : i = task
    · rw [hi, Function.update_self] at hk
      cases hk
    · exact ⟨hi, by rwa [Function.update_of_ne hi] at hk⟩
  have mine : (stages task).token? = some hold.token := by rw [inside]; rfl
  constructor
  · intro i n hn
    exact inv.drawn i n (other i n hn).2
  · intro i j n hi hj
    exact inv.apart i j n (other i n hi).2 (other j n hj).2
  · intro i k hk
    exact inv.past i k (held i k hk).2
  · intro i k hk ht
    obtain ⟨hi, hk⟩ := held i k hk
    have entry := inv.held i k hk ht
    show (FaultAction.perform.apply v.now v.store _).1.get? v.now (sites i).lock = _
    by_cases same : (sites i).lock = (sites task).lock
    · -- The entry holds the token of another call, and is not deleted.
      have differ : tokenText k.token ≠ tokenText hold.token := by
        intro h
        have token : k.token = hold.token := tokenText_injective h
        exact hi (inv.apart i task _ (Stage.token?_of_hold? hk) (token ▸ mine))
      rw [same] at entry ⊢
      simp [FaultAction.apply, Command.perform, entry, differ]
    · rw [FaultAction.get?_apply_of_ne _ _ _ _ _ _ (by simpa [Command.key?] using Ne.symm same)]
      exact entry

/-- **Locks exclude.** What a call does keeps the locks of all apart. -/
theorem event (inv : Exclusive sites v stages) (separate : ∀ i j, (sites i).key ≠ (sites j).lock)
    {e : Event} {stage : Stage} (admits : v.Admits e) (perform : e.action = .perform)
    (step : (sites e.task).Step (stages e.task) e stage) :
    Exclusive sites (v.add e) (Function.update stages e.task stage) := by
  obtain ⟨htime, hanswer⟩ := admits
  generalize hp : sites e.task = p at step
  rcases step.lock_cases with plain | ⟨time, task, action, token, rfl, rfl⟩
    | ⟨token, again, time, task, action, reply, trying, rfl, rfl⟩
    | ⟨hold, outcome, time, task, action, reply, inside, rfl, rfl⟩
  · exact inv.leaves separate (hp ▸ plain)
  · exact inv.draw hanswer
  · cases perform
    cases htime
    have here : p = sites task := hp.symm
    subst here
    exact inv.contend trying hanswer
  · cases perform
    cases htime
    have here : p = sites task := hp.symm
    subst here
    exact inv.release inside _

end Exclusive

end Turnstile

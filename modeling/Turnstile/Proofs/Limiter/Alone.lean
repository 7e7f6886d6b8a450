import Turnstile.Proofs.Limiter.Verdict

set_option autoImplicit false

/-! # Calls that run alone

A call that runs while no other does, and meets no fault, takes no time. Where its lock is free a
record call acquires it at the first try, comes to the verdict of the locked section and gives the
lock back (`Site.recordFailure_run`); a call that clears a record drops it (`Site.clear_run`). -/

namespace Turnstile

namespace Site

variable {p : Site}

/-! ## Recording an attempt -/

/-- Where a record call is that runs alone, in a world that has moved on from `w`. Only the entry of
    its lock stands in the way of a store that is as its verdict says. -/
def RecordFrom (p : Site) (w : World) (acquired : Binary64) (now : Int) (v : World)
    (stage : Stage) : Prop :=
  v.SameTime w ∧ match stage with
    | .idle => v.store = w.store
    | .trying _ again => again = false ∧ v.store = w.store
    | .inside hold phase => p.OnCourse acquired now (w.reply p.key) phase
      ∧ (v.store.get? w.now p.lock).map Entry.value = some (tokenText hold.token)
      ∧ ∀ k, k ≠ p.lock → ∀ t, v.store.get? t k = (if p.early phase then w.store
          else p.written w.now w.store (p.verdict acquired now (w.reply p.key)).2).get? t k
    | .finished outcome => (p.verdict acquired now (w.reply p.key)).1 = outcome
      ∧ (∀ t, v.store.get? t p.lock = none)
      ∧ ∀ k, k ≠ p.lock → ∀ t, v.store.get? t k = (p.written w.now w.store
          (p.verdict acquired now (w.reply p.key)).2).get? t k
    | _ => False

/-- A lock that is free is acquired at the first try. -/
theorem RecordFrom.contend {w v : World} {acquired : Binary64} {now : Int}
    (free : w.store.get? w.now p.lock = none) (positive : 0 < p.ttl) {token : Nat} {again : Bool}
    (trying : p.RecordFrom w acquired now v (.trying token again)) {time : Int} {task : Nat}
    {reply : Except Failure Json}
    (admits : v.Admits
      ⟨time, task, .command (.setIfAbsent p.lock (tokenText token) p.ttl), .perform, reply⟩) :
    p.RecordFrom w acquired now
      (v.add ⟨time, task, .command (.setIfAbsent p.lock (tokenText token) p.ttl), .perform, reply⟩)
      (tried token time reply) := by
  obtain ⟨same, -, store⟩ := trying
  have put : Command.perform v.now v.store (.setIfAbsent p.lock (tokenText token) p.ttl)
      = (w.store.put p.lock ⟨tokenText token, some (w.now + p.ttl)⟩, .ok (.bool true)) := by
    rw [Command.perform, store, same.now, free, if_neg (Int.not_le.2 positive)]
  have answered : reply = .ok (.bool true) := by
    have answered : reply = (Command.perform v.now v.store
        (.setIfAbsent p.lock (tokenText token) p.ttl)).2 := admits.answer
    rw [answered, put]
  have store' : (v.add ⟨time, task, .command (.setIfAbsent p.lock (tokenText token) p.ttl),
      .perform, reply⟩).store = w.store.put p.lock ⟨tokenText token, some (w.now + p.ttl)⟩ :=
    congrArg Prod.fst put
  rw [answered] at store' ⊢
  refine ⟨same.add _, trivial, ?_, ?_⟩
  · rw [store', Store.get?_put, if_pos rfl]
    have live : Entry.isLive w.now ⟨tokenText token, some (w.now + p.ttl)⟩ := by
      simp only [Entry.isLive, Option.all_some, decide_eq_true_eq]
      omega
    rw [Option.filter_some, if_pos live]
    rfl
  · intro k apart t
    rw [store', Store.get?_put, if_neg apart]
    rfl

/-- Before its effect a record call finds under the key of its record what was there at first. -/
theorem RecordFrom.content {w v : World} {acquired : Binary64} {now : Int} {hold : Hold}
    {phase : Phase} (apart : p.key ≠ p.lock)
    (inside : p.RecordFrom w acquired now v (.inside hold phase)) (early : p.early phase = true) :
    w.reply p.key = v.reply p.key := by
  obtain ⟨same, -, -, records⟩ := inside
  rw [World.reply_eq, World.reply_eq, records _ apart, if_pos early, same.now]

/-- A step of a record call that runs alone. -/
theorem RecordFrom.step {w v : World} {acquired : Binary64} {now : Int} {stage stage' : Stage}
    {e : Event} (only : p.looks = false ∧ p.drops = false)
    (free : w.store.get? w.now p.lock = none) (positive : 0 < p.ttl) (apart : p.key ≠ p.lock)
    (monotonic : w.monotonic = .ok acquired) (clock : w.read p.limiter.clock = .ok now)
    (record : p.RecordFrom w acquired now v stage) (admits : v.Admits e)
    (perform : e.action = .perform) (step : p.Step stage e stage') :
    p.RecordFrom w acquired now (v.add e) stage' := by
  cases stage with
  | inside hold phase =>
    have content := record.content apart
    obtain ⟨same, on, held, records⟩ := record
    rw [← same.monotonic] at monotonic
    rw [← same.read] at clock
    -- The section stays on course, or else gives its lock back, which still holds its token.
    rcases on.step monotonic clock content admits perform step with
      ⟨phase', rfl, on', affects⟩ | ⟨outcome, rfl, release, rfl⟩
    · refine ⟨same.add e, on', ?_⟩
      cases affects with
      | apart _ early _ unchanged =>
        rw [unchanged, early]
        exact ⟨held, records⟩
      | reads _ early _ unchanged =>
        rw [if_pos early.1] at records
        rw [unchanged, if_pos early.2]
        exact ⟨held, records⟩
      | comes _ early late key changed =>
        rw [if_pos early] at records
        have frame : ∀ c, e.effect = .command c → c.key? ≠ some p.lock := by
          intro c hc lock
          rw [key c hc] at lock
          exact apart (Option.some.inj lock)
        rw [World.get?_add_of_ne v e p.lock frame, late, if_neg (by simp), changed, same.now]
        exact ⟨held, fun k hk => get?_written_congr p (records k hk) _ _⟩
    · have deleted : (v.add e).store
          = (Command.perform v.now v.store (.deleteIfEqual p.lock (tokenText hold.token))).1 := by
        obtain ⟨time, task, effect, action, answer⟩ := e
        cases release
        cases perform
        rfl
      obtain ⟨entry, found, text⟩ := Option.map_eq_some_iff.1 held
      rw [← same.now] at found
      have erased : (v.add e).store = v.store.erase p.lock := by
        rw [deleted, Command.perform, found]
        simp only [text, if_true]
      refine ⟨same.add e, on, ?_, ?_⟩
      · intro t
        rw [erased, Store.get?_erase, if_pos rfl]
      · intro k hk t
        rw [erased, Store.get?_erase, if_neg hk]
        exact records k hk t
  | trying token again =>
    cases step with
    | log | count => exact ⟨record.1.add _, record.2⟩
    | contend =>
      cases perform
      exact record.contend free positive admits
    | pause => cases record.2.1
    | drop _ isOpen | draw _ isOpen => cases isOpen
  | idle =>
    cases step with
    | log | count => exact ⟨record.1.add _, record.2⟩
    | draw => exact ⟨record.1.add _, rfl, record.2⟩
    | look may =>
      rw [only.1] at may
      cases may
    | drop may =>
      rw [only.2] at may
      cases may
  | finished outcome =>
    cases step with
    | log | count => exact ⟨record.1.add _, record.2⟩
    | drop _ isOpen | draw _ isOpen => cases isOpen
  | _ => exact record.2.elim

/-- **A record call alone.** Where its lock is free and the clocks can be read, a record call comes
    to the verdict of its locked section; the records are as that says, and the lock is free again.
    -/
theorem recordFailure_run {s : System} (noFault : s.faults = []) {task : Nat} (records : p.records)
    (only : p.looks = false ∧ p.drops = false) (free : s.get? p.lock = none) (positive : 0 < p.ttl)
    (retries : 0 ≤ p.limiter.config.lock.retries) (apart : p.key ≠ p.lock) {acquired : Binary64}
    {now : Int} (monotonic : (World.of s []).monotonic = .ok acquired)
    (clock : (World.of s []).read p.limiter.clock = .ok now) {s' : System}
    {result : Except Failure Bool}
    (run : (p.limiter.recordFailure p.world p.subject).run.run task s = (s', result)) :
    (World.of s' []).SameTime (.of s []) ∧ s'.faults = []
      ∧ result = settle (p.verdict acquired now ((World.of s []).reply p.key)).1
      ∧ (∀ t, s'.store.get? t p.lock = none)
      ∧ ∀ k, k ≠ p.lock → ∀ t, s'.store.get? t k = (p.written s.elapsed s.store
          (p.verdict acquired now ((World.of s []).reply p.key)).2).get? t k := by
  have pass : ∀ v stage e stage' t, p.RecordFrom (.of s []) acquired now v stage →
      p.Step stage e stage' → e.effect.idles → v.now ≤ t →
      p.RecordFrom (.of s []) acquired now (v.atTime t) stage := by
    intro v stage e stage' t record step idles _
    cases step with
    | wait => exact record.2.elim
    | pause => cases record.2.1
    | _ => cases idles
  obtain ⟨stage, h, ⟨same, record⟩, ⟨ends, tried⟩, noFault'⟩ := Proc.run_invariant
    (fun _ _ _ _ record admits perform step =>
      record.step only free positive apart monotonic clock admits perform step)
    pass (@recordFailure_obeys p task .idle records trivial) noFault (h := [])
    ⟨⟨rfl, rfl, rfl⟩, rfl⟩
  rw [run] at same record ends noFault'
  refine ⟨⟨same.now, same.epoch, same.skews⟩, noFault', ?_⟩
  generalize hr : (s', result).2 = told at ends
  rw [show result = told from hr]
  cases ends with
  | finished outcome =>
    obtain ⟨verdict, free', records'⟩ := record
    rw [verdict]
    exact ⟨rfl, free', records'⟩
  | trying token again =>
    -- It has not tried, though it has at least one try.
    obtain ⟨rfl, -⟩ := record
    exact absurd rfl (tried retries token)
  | failed f => exact record.elim

/-! ## Dropping the record -/

/-- Where a call is that runs alone and only drops its record, in a world that has moved on from
    `w`. -/
def DropFrom (p : Site) (w v : World) (stage : Stage) : Prop :=
  v.SameTime w ∧ match stage with
    | .idle => v.store = w.store
    | .dropped => v.store = (Command.perform w.now w.store (.delete p.key)).1
    | _ => False

/-- A step of a call that runs alone and only drops its record. -/
theorem DropFrom.step {w v : World} {stage stage' : Stage} {e : Event}
    (only : p.looks = false ∧ p.records = false) (from_ : p.DropFrom w v stage)
    (admits : v.Admits e) (perform : e.action = .perform) (step : p.Step stage e stage') :
    p.DropFrom w (v.add e) stage' := by
  obtain ⟨same, store⟩ := from_
  cases step with
  | log | count => exact ⟨same.add _, store⟩
  | look may =>
    rw [only.1] at may
    cases may
  | draw may =>
    rw [only.2] at may
    cases may
  | @drop _ _ isOpen time task action reply =>
    cases perform
    cases stage with
    | idle =>
      have store : v.store = w.store := store
      have answered : reply = (Command.perform v.now v.store (.delete p.key)).2 := admits.answer
      have deleted : (v.add ⟨time, task, .command (.delete p.key), .perform, reply⟩).store
          = (Command.perform w.now w.store (.delete p.key)).1 := by
        rw [← store, ← same.now]
        rfl
      cases reply with
      | ok reply => exact ⟨same.add _, deleted⟩
      | error f =>
        rw [Command.eq_invalidExpiry (Prod.ext rfl answered.symm)] at deleted ⊢
        exact ⟨same.add _, deleted⟩
    | dropped => cases isOpen
    | _ => exact store.elim
  | _ => exact store.elim

/-- **A call alone that clears a record.** It drops the record. -/
theorem clear_run {s : System} (noFault : s.faults = []) {task : Nat} (drops : p.drops)
    (only : p.looks = false ∧ p.records = false) {s' : System} {result : Except Failure Unit}
    (run : (Limiter.clear p.world p.subject).run.run task s = (s', result)) :
    (World.of s' []).SameTime (.of s []) ∧ s'.faults = [] ∧ result = .ok ()
      ∧ s'.store = (Command.perform s.elapsed s.store (.delete p.key)).1 := by
  have pass : ∀ v stage e stage' t, p.DropFrom (.of s []) v stage → p.Step stage e stage' →
      e.effect.idles → v.now ≤ t → p.DropFrom (.of s []) (v.atTime t) stage := by
    intro v stage e stage' t from_ step idles _
    cases step with
    | wait | pause => exact from_.2.elim
    | _ => cases idles
  obtain ⟨stage, h, ⟨same, store⟩, ends, noFault'⟩ := Proc.run_invariant
    (fun _ _ _ _ from_ admits perform step => from_.step only admits perform step)
    pass (@clear_obeys p task .idle drops trivial) noFault (h := [])
    ⟨⟨rfl, rfl, rfl⟩, rfl⟩
  rw [run] at same store ends noFault'
  refine ⟨⟨same.now, same.epoch, same.skews⟩, noFault', ?_⟩
  generalize hr : (s', result).2 = told at ends
  rw [show result = told from hr]
  cases ends with
  | dropped => exact ⟨rfl, store⟩
  | failed f => exact store.elim

/-- What was dropped is not found any more. -/
theorem get?_delete (s : Store) (now : Int) (key : String) {t : Int} (later : now ≤ t) :
    (Command.perform now s (.delete key)).1.get? t key = none := by
  rw [Command.perform]
  cases found : s.get? now key with
  | some entry => rw [Store.get?_erase, if_pos rfl]
  | none => exact Store.get?_eq_none_later later found

end Site

end Turnstile

import Turnstile.Proofs.Limiter.Denial
import Turnstile.Proofs.Limiter.Tries
import Turnstile.Proofs.Lock.Doings

set_option autoImplicit false

/-! # One outcome an attempt

Whatever a call that records an attempt is answered, it counts one outcome: the locked section counts
what it decided (`Limiter.checkAndRecord_does`), and where it fails, or the lock is not had, the call
counts that it failed open. Only a release of the lock that fails in a way that is not the store's
comes between: the section has counted by then, and the call counts once more. -/

namespace Turnstile

/-! ## What an event tells -/

namespace Event

/-- The reply to a read of what is under a key. -/
def looked? (key : String) : Event → Option (Except Failure Json)
  | ⟨_, _, .command (.get k), _, reply⟩ => if k = key then some reply else none
  | _ => none

/-- A release of a lock fails in a way that is not the store's. -/
def breaks : Event → Bool
  | ⟨_, _, .command (.deleteIfEqual _ _), _, .error f⟩ => !f.isStoreError
  | _ => false

end Event

/-- Events count given outcomes, and nothing in them tells of a clock or of what is under a key. -/
structure Counts (key : String) (counted : List AttemptOutcome) (es : List Event) : Prop where
  outcomes : es.filterMap Event.outcome? = counted
  readings : es.filterMap Event.reading? = []
  looked : es.filterMap (Event.looked? key) = []

theorem Counts.append {key : String} {counted counted' : List AttemptOutcome}
    {es es' : List Event} (first : Counts key counted es) (second : Counts key counted' es') :
    Counts key (counted ++ counted') (es ++ es') where
  outcomes := by rw [List.filterMap_append, first.outcomes, second.outcomes]
  readings := by rw [List.filterMap_append, first.readings, second.readings, List.append_nil]
  looked := by rw [List.filterMap_append, first.looked, second.looked, List.append_nil]

/-- The effect is no part of deciding on an attempt, and no release of a lock. -/
def Effect.IsAside : Effect → Prop
  | .log _ | .pause _ | .monotonic | .freshToken => True
  | .command (.setIfAbsent ..) | .command (.set ..) => True
  | _ => False

theorem counts_of_aside {es : List Event} (aside : ∀ e ∈ es, e.effect.IsAside) (key : String) :
    Counts key [] es ∧ ∀ e ∈ es, e.breaks = false := by
  have each : ∀ e ∈ es, e.outcome? = none ∧ e.reading? = none ∧ e.looked? key = none
      ∧ e.breaks = false := by
    rintro ⟨time, task, effect, action, answer⟩ he
    have aside := aside _ he
    cases effect with
    | command c =>
      cases c with
      | setIfAbsent | set => exact ⟨rfl, rfl, rfl, rfl⟩
      | _ => exact aside.elim
    | log | pause | monotonic | freshToken => exact ⟨rfl, rfl, rfl, rfl⟩
    | _ => exact aside.elim
  exact ⟨⟨List.filterMap_eq_nil_iff.2 fun e he => (each e he).1,
    List.filterMap_eq_nil_iff.2 fun e he => (each e he).2.1,
    List.filterMap_eq_nil_iff.2 fun e he => (each e he).2.2.1⟩, fun e he => (each e he).2.2.2⟩

theorem Lock.OfTry.aside {key token : String} {ttl : Int} {e : Effect}
    (h : OfTry key token ttl e) : e.IsAside := by
  cases e with
  | command c =>
    obtain rfl : c = _ := h
    trivial
  | log | pause | monotonic => trivial
  | _ => exact h.elim

/-! ## What a call finds -/

namespace Limiter

variable {l : Limiter} {key : String} {task : Nat} {es : List Event}

/-- What was read of the clock and of the record under a key tells that the cap is reached. -/
def FindsFull (l : Limiter) (key : String) (es : List Event) : Prop :=
  ∃ now ∈ es.filterMap Event.reading?, ∃ reply ∈ es.filterMap (Event.looked? key), ∃ recent,
    (Site.stored reply).bind (l.recent · now) = .ok recent ∧ l.capReached recent

/-- How a section ends that decides on an attempt, by whether it found the cap reached, and what it
    counted. -/
inductive Decides (full : Prop) : List AttemptOutcome → Except Failure Bool → Prop where
  | rateLimited (found : full) : Decides full [.rateLimited] (.ok true)
  | allowed (room : ¬full) : Decides full [.allowed] (.ok false)
  | failOpen (room : ¬full) : Decides full [.failOpen] (.ok false)
  | failed (room : ¬full) (f : Failure) : Decides full [] (.error f)

theorem Decides.congr {full full' : Prop} (same : full' ↔ full) {counted : List AttemptOutcome}
    {outcome : Except Failure Bool} (decides : Decides full counted outcome) :
    Decides full' counted outcome := by
  rwa [propext same]

/-- What counts nothing and reads nothing changes nothing of what is found and counted. -/
theorem counts_around (l : Limiter) (es : List Event) {first last : List Event} (before : Counts key [] first)
    (after : Counts key [] last) :
    (first ++ es ++ last).filterMap Event.outcome? = es.filterMap Event.outcome?
      ∧ (l.FindsFull key (first ++ es ++ last) ↔ l.FindsFull key es) := by
  simp [FindsFull, before.outcomes, after.outcomes, before.readings, after.readings,
    before.looked, after.looked]

/-- What is found is by the one reading and the one reply that there are. -/
theorem counts_read (l : Limiter) (task : Nat) {counted : List AttemptOutcome} (rest : Counts key counted es)
    (source : Clock) (time time' now : Int) (action action' : FaultAction)
    (reply : Except Failure Json) :
    let read := ⟨time, task, .clock source, action, .ok now⟩
      :: ⟨time', task, .command (.get key), action', reply⟩ :: es
    read.filterMap Event.outcome? = counted
      ∧ (l.FindsFull key read ↔ ∃ recent,
        (Site.stored reply).bind (l.recent · now) = .ok recent ∧ l.capReached recent) := by
  have silent : (⟨time', task, .command (.get key), action', reply⟩ : Event).reading? = none := rfl
  have unseen : (⟨time, task, .clock source, action, .ok now⟩ : Event).looked? key = none := rfl
  have reading : (⟨time, task, .clock source, action, .ok now⟩ : Event).reading? = some now := rfl
  have looked : (⟨time', task, .command (.get key), action', reply⟩ : Event).looked? key
      = some reply := by simp [Event.looked?]
  refine ⟨rest.outcomes, ?_⟩
  simp [FindsFull, silent, unseen, reading, looked, rest.readings, rest.looked]

/-! ## What is done under the lock -/

theorem storedRecord_does {outcome : Except Failure Json}
    (h : (storedRecord key).Does task es outcome) :
    ∃ time action reply rest,
      es = ⟨time, task, .command (.get key), action, reply⟩ :: rest
      ∧ (∀ e ∈ rest, e.effect.IsAside) ∧ outcome = Site.stored reply := by
  have reads : ∀ {es : List Event} {x : Except Failure Json}, (Cache.get key).Does task es x →
      ∃ time action reply, es = [⟨time, task, .command (.get key), action, reply⟩]
        ∧ x = reply.bind Cache.valueOf := fun h => Routine.Does.command_then h
  rcases Routine.Does.catching_cases h with ⟨value, gets, rfl⟩ | ⟨f, gets, passed, rfl⟩
    | ⟨f, first, rest, rfl, gets, handled, logs⟩
  · obtain ⟨time, action, reply, rfl, same⟩ := reads gets
    exact ⟨time, action, reply, [], rfl, by simp, by simp only [Site.stored, ← same]⟩
  · obtain ⟨time, action, reply, rfl, same⟩ := reads gets
    refine ⟨time, action, reply, [], rfl, by simp, ?_⟩
    simp only [Site.stored, ← same, passed]
    rfl
  · obtain ⟨time, action, reply, rfl, same⟩ := reads gets
    obtain ⟨time', action', _, rest, rfl, ends⟩ := Routine.Does.ask_cases logs
    obtain ⟨rfl, rfl⟩ := Routine.does_pure.1 ends
    refine ⟨time, action, reply, _, rfl, by simp [Effect.IsAside], ?_⟩
    simp only [Site.stored, ← same, handled, if_true]

theorem set_does {value : Json} {ttl : Int} {outcome : Except Failure Unit}
    (h : (Cache.set key value ttl).Does task es outcome) : ∀ e ∈ es, e.effect.IsAside := by
  rw [Cache.set] at h
  rcases Routine.Does.first_cases h with ⟨f, throws, rfl⟩ | ⟨first, rest, rfl, throws, issues⟩
  · obtain ⟨rfl, -⟩ := Routine.does_throw.1 throws
    simp
  · obtain rfl : first = [] := by
      rcases throws with rfl | throws
      · rfl
      · exact (Routine.does_throw.1 throws).1
    obtain ⟨time, action, reply, rfl, -⟩ := Routine.Does.command_then (f := fun _ => .ok ()) issues
    simp [Effect.IsAside]

/-- The last that is done is to count an outcome, and all that comes before it is aside. -/
def EndsCounting (task : Nat) (es : List Event) (o : AttemptOutcome) : Prop :=
  ∃ first time action answer, es = first ++ [⟨time, task, .countOutcome o, action, answer⟩]
    ∧ ∀ e ∈ first, e.effect.IsAside

/-- A write that does not fail is counted as what it came to. -/
theorem writeRecord_does {timestamps : List Int} {outcome : Except Failure Unit}
    (h : (l.writeRecord key timestamps).Does task es outcome) :
    (∃ f, outcome = .error f ∧ ∀ e ∈ es, e.effect.IsAside)
      ∨ outcome = .ok () ∧ (EndsCounting task es .allowed ∨ EndsCounting task es .failOpen) := by
  have writes : ∀ {es : List Event} {x : Except Failure AttemptOutcome},
      (do Cache.set key (Window.record timestamps) l.config.recordSeconds; return .allowed :
        Routine AttemptOutcome).Does task es x →
      (∀ e ∈ es, e.effect.IsAside) ∧ ∀ o, x = .ok o → o = .allowed := by
    intro es x h
    rcases Routine.Does.bind_cases h with ⟨f, sets, rfl⟩ | ⟨_, first, rest, rfl, sets, ends⟩
    · exact ⟨set_does sets, fun _ h => nomatch h⟩
    · obtain ⟨rfl, rfl⟩ := Routine.does_pure.1 ends
      rw [List.append_nil]
      exact ⟨set_does sets, fun _ h => (Except.ok.inj h).symm⟩
  -- What is caught is logged, and comes to another outcome.
  have comes : ∀ {es : List Event} {x : Except Failure AttemptOutcome}, Routine.Does (Routine.catching
      (do Cache.set key (Window.record timestamps) l.config.recordSeconds; return .allowed)
      Failure.isStoreError fun f => do
        let reason := f.logText
        Routine.log .warning .limiter
          s!"attempts write failed key={key}, attempt not tracked: {reason}"
        return .failOpen) task es x →
      (∀ e ∈ es, e.effect.IsAside) ∧ ∀ o, x = .ok o → o = .allowed ∨ o = .failOpen := by
    intro es x h
    rcases Routine.Does.catching_cases h with ⟨o, sets, rfl⟩ | ⟨f, sets, -, rfl⟩
      | ⟨f, first, rest, rfl, sets, -, logs⟩
    · exact ⟨(writes sets).1, fun _ h => .inl ((writes sets).2 _ h)⟩
    · exact ⟨(writes sets).1, fun _ h => nomatch h⟩
    · obtain ⟨time, action, _, rest, rfl, ends⟩ := Routine.Does.ask_cases logs
      obtain ⟨rfl, rfl⟩ := Routine.does_pure.1 ends
      refine ⟨List.forall_mem_append.2 ⟨(writes sets).1, by simp [Effect.IsAside]⟩, ?_⟩
      exact fun _ h => .inr (Except.ok.inj h).symm
  rcases Routine.Does.bind_cases h with ⟨f, sets, rfl⟩ | ⟨o, first, rest, rfl, sets, counts⟩
  · exact .inl ⟨f, rfl, (comes sets).1⟩
  · obtain ⟨time, action, answer, rfl, rfl⟩ := counts.of_ask
    have ends : EndsCounting task (first ++ [⟨time, task, .countOutcome o, action, answer⟩]) o :=
      ⟨first, time, action, answer, rfl, (comes sets).1⟩
    rcases (comes sets).2 o rfl with rfl | rfl
    · exact .inr ⟨rfl, .inl ends⟩
    · exact .inr ⟨rfl, .inr ends⟩

/-- Where there is room, the attempt is counted as allowed or as one that failed open. -/
theorem room_does {handle : LockHandle} {timestamps : List Int} {outcome : Except Failure Bool}
    (h : (do
      if ← Lock.expired handle then
        Routine.log .warning .limiter s!"lock expired before write key={key}, attempt not tracked"
        Routine.count .failOpen
        return false
      l.writeRecord key timestamps
      return false : Routine Bool).Does task es outcome) :
    (∃ f, outcome = .error f ∧ ∀ e ∈ es, e.effect.IsAside)
      ∨ outcome = .ok false ∧ (EndsCounting task es .allowed ∨ EndsCounting task es .failOpen) := by
  have reads : ∀ {es : List Event} {x : Except Failure Bool}, (Lock.expired handle).Does task es x →
      ∃ time action reading, es = [⟨time, task, .monotonic, action, reading⟩] := by
    intro es x h
    rcases Routine.Does.bind_cases h with ⟨f, reads, rfl⟩ | ⟨now, first, rest, rfl, reads, ends⟩
    · obtain ⟨time, action, rfl⟩ := reads.of_monotonic
      exact ⟨time, action, _, rfl⟩
    · obtain ⟨time, action, rfl⟩ := reads.of_monotonic
      obtain ⟨rfl, -⟩ := Routine.does_pure.1 ends
      exact ⟨time, action, _, rfl⟩
  rcases Routine.Does.bind_cases h with ⟨f, tells, rfl⟩ | ⟨late, first, rest, rfl, tells, goes⟩
  · obtain ⟨time, action, reading, rfl⟩ := reads tells
    exact .inl ⟨f, rfl, by simp [Effect.IsAside]⟩
  · obtain ⟨time, action, reading, rfl⟩ := reads tells
    cases late with
    | true =>
      obtain ⟨_, _, _, _, rfl, counts⟩ := Routine.Does.ask_cases goes
      obtain ⟨_, _, _, _, rfl, ends⟩ := Routine.Does.ask_cases counts
      obtain ⟨rfl, rfl⟩ := Routine.does_pure.1 ends
      refine .inr ⟨rfl, .inr ⟨[_, _], _, _, _, rfl, ?_⟩⟩
      simp [Effect.IsAside]
    | false =>
      rcases Routine.Does.bind_cases goes with ⟨f, writes, rfl⟩ | ⟨_, written, rest, rfl, writes, ends⟩
      · rcases writeRecord_does writes with ⟨_, ⟨⟩, aside⟩ | ⟨⟨⟩, -⟩
        exact .inl ⟨_, rfl, List.forall_mem_cons.2 ⟨trivial, aside⟩⟩
      · obtain ⟨rfl, rfl⟩ := Routine.does_pure.1 ends
        rw [List.append_nil]
        have later : ∀ o, EndsCounting task written o →
            EndsCounting task (⟨time, task, .monotonic, action, reading⟩ :: written) o := by
          rintro o ⟨first, time', action', answer, rfl, aside⟩
          exact ⟨_ :: first, time', action', answer, rfl, List.forall_mem_cons.2 ⟨trivial, aside⟩⟩
        rcases writeRecord_does writes with ⟨_, ⟨⟩, -⟩ | ⟨-, ends⟩
        exact .inr ⟨rfl, ends.imp (later _) (later _)⟩

theorem EndsCounting.counts {o : AttemptOutcome} (ends : EndsCounting task es o) (key : String) :
    Counts key [o] es ∧ ∀ e ∈ es, e.breaks = false := by
  obtain ⟨first, time, action, answer, rfl, aside⟩ := ends
  obtain ⟨counts, whole⟩ := counts_of_aside aside key
  exact ⟨counts.append ⟨rfl, rfl, rfl⟩, List.forall_mem_append.2 ⟨whole, by simp [Event.breaks]⟩⟩

/-- A record that was read is judged by the timestamps of its window. -/
theorem judged_does {handle : LockHandle} {value : Json} {now : Int} {outcome : Except Failure Bool}
    (h : (do
      let recent ← Routine.ofExcept (l.recent value now)
      if l.capReached recent then
        let size := recent.length
        Routine.log .info .limiter s!"rate limited key={key} attempts={size}"
        Routine.count .rateLimited
        return true
      if ← Lock.expired handle then
        Routine.log .warning .limiter s!"lock expired before write key={key}, attempt not tracked"
        Routine.count .failOpen
        return false
      l.writeRecord key (recent ++ [now])
      return false : Routine Bool).Does task es outcome) :
    ∃ counted, Counts key counted es ∧ (∀ e ∈ es, e.breaks = false)
      ∧ Decides (∃ recent, l.recent value now = .ok recent ∧ l.capReached recent) counted
        outcome := by
  rcases Routine.Does.bind_cases h with ⟨f, ends, rfl⟩ | ⟨recent, first, rest, rfl, ends, goes⟩
  · obtain ⟨rfl, unread⟩ := Routine.does_ofExcept.1 ends
    refine ⟨[], ⟨rfl, rfl, rfl⟩, by simp, .failed ?_ f⟩
    simp [← unread]
  · obtain ⟨rfl, read⟩ := Routine.does_ofExcept.1 ends
    have judged : (∃ recent, l.recent value now = .ok recent ∧ l.capReached recent)
        ↔ l.capReached recent = true := by simp [← read]
    rw [List.nil_append]
    by_cases full : l.capReached recent = true
    · simp only [full, if_true] at goes
      obtain ⟨time, action, noted, rest, rfl, counts⟩ := Routine.Does.ask_cases goes
      obtain ⟨time', action', counted, rest, rfl, ends⟩ := Routine.Does.ask_cases counts
      obtain ⟨rfl, rfl⟩ := Routine.does_pure.1 ends
      have ends : EndsCounting task _ .rateLimited :=
        ⟨[⟨time, task, .log _, action, noted⟩], time', action', counted, rfl,
          by simp [Effect.IsAside]⟩
      obtain ⟨counts, whole⟩ := ends.counts key
      exact ⟨_, counts, whole, .rateLimited (judged.2 full)⟩
    · simp only [full] at goes
      have room := fun found => full (judged.1 found)
      rcases room_does goes with ⟨f, rfl, aside⟩ | ⟨rfl, ends | ends⟩
      · obtain ⟨counts, whole⟩ := counts_of_aside aside key
        exact ⟨_, counts, whole, .failed room f⟩
      · obtain ⟨counts, whole⟩ := ends.counts key
        exact ⟨_, counts, whole, .allowed room⟩
      · obtain ⟨counts, whole⟩ := ends.counts key
        exact ⟨_, counts, whole, .failOpen room⟩

/-- **What the section under the lock comes to.** It counts one outcome, which tells whether it found
    the cap reached, or it fails. It releases no lock. -/
theorem checkAndRecord_does {handle : LockHandle} {outcome : Except Failure Bool}
    (h : (l.checkAndRecord key handle).Does task es outcome) :
    Decides (l.FindsFull key es) (es.filterMap Event.outcome?) outcome
      ∧ ∀ e ∈ es, e.breaks = false := by
  rcases Routine.Does.bind_cases h with ⟨f, reads, rfl⟩ | ⟨now, first, rest, rfl, reads, goes⟩
  · obtain ⟨time, action, rfl⟩ := reads.of_readClock
    exact ⟨.failed (by simp [FindsFull, Event.reading?]) f, by simp [Event.breaks]⟩
  obtain ⟨time, action, rfl⟩ := reads.of_readClock
  rcases Routine.Does.bind_cases goes with ⟨f, gets, rfl⟩ | ⟨value, first, rest, rfl, gets, judges⟩
  · obtain ⟨time', action', reply, logs, rfl, aside, same⟩ := storedRecord_does gets
    obtain ⟨counts, whole⟩ := counts_of_aside aside key
    obtain ⟨counted, found⟩ := counts_read l task counts l.clock time time' now
      action action' reply
    refine ⟨?_, by simpa [Event.breaks] using whole⟩
    have unread : ¬∃ recent, (Site.stored reply).bind (l.recent · now) = .ok recent
        ∧ l.capReached recent := by
      rw [← same]
      rintro ⟨_, ⟨⟩, -⟩
    exact counted ▸ .congr found (.failed unread f)
  · obtain ⟨time', action', reply, logs, rfl, aside, same⟩ := storedRecord_does gets
    obtain ⟨noted, unbroken⟩ := counts_of_aside aside key
    obtain ⟨counted, counts, whole, decides⟩ := judged_does judges
    obtain ⟨all, found⟩ := counts_read l task (noted.append counts) l.clock time
      time' now action action' reply
    refine ⟨?_, ?_⟩
    · have read : (∃ recent, (Site.stored reply).bind (l.recent · now) = .ok recent
          ∧ l.capReached recent) ↔ ∃ recent, l.recent value now = .ok recent
          ∧ l.capReached recent := by
        rw [← same]
        rfl
      exact all ▸ .congr (found.trans read) decides
    · simpa [Event.breaks, or_imp, forall_and] using ⟨unbroken, whole⟩

/-! ## The call as a whole -/

theorem acquire_counts {lock : String} {o : LockOptions} {outcome : Except Failure LockHandle}
    (h : (Lock.acquire lock o).Does task es outcome) (key : String) :
    Counts key [] es ∧ ∀ e ∈ es, e.breaks = false := by
  obtain ⟨time, action, n, rest, rfl, tried⟩ := Lock.acquire_does h
  have aside : ∀ e ∈ rest, e.effect.IsAside := fun e he => (tried.only e he).aside
  exact counts_of_aside (by simpa [Effect.IsAside] using aside) key

theorem Decides.length_le {full : Prop} {counted : List AttemptOutcome}
    {outcome : Except Failure Bool} (decides : Decides full counted outcome) :
    counted.length ≤ 1 := by
  cases decides <;> simp

/-- The locked section ends as it decided, unless the release of the lock breaks. -/
theorem tracked_does {lock : String} {o : LockOptions} {outcome : Except Failure Bool}
    (h : (Lock.holding lock o (l.checkAndRecord key)).Does task es outcome) :
    ((∀ e ∈ es, e.breaks = false)
        ∧ Decides (l.FindsFull key es) (es.filterMap Event.outcome?) outcome)
      ∨ (∃ e ∈ es, e.breaks) ∧ (∃ f, outcome = .error f)
        ∧ (es.filterMap Event.outcome?).length ≤ 1 := by
  rcases Lock.holding_does h with ⟨f, acquires, rfl⟩
    | ⟨handle, inner, released, first, middle, last, rfl, acquires, decides, releases, rfl⟩
  · obtain ⟨counts, whole⟩ := acquire_counts acquires key
    refine .inl ⟨whole, counts.outcomes ▸ .failed ?_ f⟩
    rintro ⟨now, read, -⟩
    simp [counts.readings] at read
  · obtain ⟨before, acquired⟩ := acquire_counts acquires key
    obtain ⟨decides, unbroken⟩ := checkAndRecord_does decides
    obtain ⟨time, action, reply, logs, rfl, logged, rfl⟩ := Lock.release_does releases
    have aside : ∀ e ∈ logs, e.effect.IsAside := by
      intro e he
      obtain ⟨entry, effect⟩ := logged e he
      rw [effect]
      trivial
    obtain ⟨noted, quiet⟩ := counts_of_aside aside key
    let release : Event :=
      ⟨time, task, .command (.deleteIfEqual handle.key handle.token), action, reply⟩
    have after : Counts key [] (release :: logs) :=
      Counts.append (⟨rfl, rfl, rfl⟩ : Counts key [] [release]) noted
    obtain ⟨counted, found⟩ := counts_around l middle before after
    by_cases broken : release.breaks = true
    · obtain ⟨f, rfl, other⟩ : ∃ f, reply = .error f ∧ f.isStoreError = false := by
        cases reply with
        | ok value => cases broken
        | error f => exact ⟨f, rfl, by simpa [release, Event.breaks] using broken⟩
      refine .inr ⟨⟨release, by simp [release], broken⟩, ⟨f, by simp [Lock.freed, other, Except.bind]⟩, ?_⟩
      rw [counted]
      exact decides.length_le
    · -- A release that does not break leaves what the section came to.
      have released : (Lock.freed reply).bind (fun _ => inner) = inner := by
        cases reply with
        | ok value => rfl
        | error f =>
          have handled : f.isStoreError = true := by simpa [release, Event.breaks] using broken
          simp [Lock.freed, handled, Except.bind]
      refine .inl ⟨?_, ?_⟩
      · have whole : release.breaks = false := by simpa using broken
        intro e he
        simp only [List.mem_append, List.mem_cons] at he
        rcases he with (he | he) | rfl | he
        · exact acquired e he
        · exact unbroken e he
        · exact whole
        · exact quiet e he
      · rw [counted, released]
        exact decides.congr found

/-- **What an attempt is counted as.** A call that records an attempt and returns has counted exactly
    one outcome, which tells what it returns: that the cap is reached is told where, and only where,
    it was found so. Where the release of the lock breaks, the call returns no, and has counted that
    it failed open after whatever the section had counted. -/
theorem recordFailure_does {world subject : String} {limited : Bool}
    (h : (l.recordFailure world subject).Does task es (.ok limited)) :
    ((∀ e ∈ es, e.breaks = false) → ∃ o, es.filterMap Event.outcome? = [o] ∧ o ≠ .cleared
        ∧ (limited = true ↔ o = .rateLimited)
        ∧ (limited = true ↔ l.FindsFull (attemptsKey world subject) es))
      ∧ ((∃ e ∈ es, e.breaks) → limited = false ∧ ∃ inner,
        es.filterMap Event.outcome? = inner ++ [.failOpen] ∧ inner.length ≤ 1) := by
  rcases Routine.Does.catching_cases h with ⟨_, tracked, ⟨⟩⟩ | ⟨f, -, -, ⟨⟩⟩
    | ⟨f, first, rest, rfl, tracked, handled, fails⟩
  · rcases tracked_does tracked with ⟨whole, decides⟩ | ⟨-, ⟨f, ⟨⟩⟩, -⟩
    refine ⟨fun _ => ?_, fun ⟨e, he, broken⟩ => ?_⟩
    · generalize es.filterMap Event.outcome? = counted at decides
      cases decides with
      | rateLimited found => exact ⟨_, rfl, by decide, by simp, by simpa using found⟩
      | allowed room | failOpen room => exact ⟨_, rfl, by decide, by simp, by simpa using room⟩
    · rw [whole e he] at broken
      cases broken
  · obtain ⟨time, action, noted, rest, rfl, counts⟩ := Routine.Does.ask_cases fails
    obtain ⟨time', action', counted, rest, rfl, ends⟩ := Routine.Does.ask_cases counts
    obtain ⟨rfl, ⟨⟩⟩ := Routine.does_pure.1 ends
    let handler : List Event := [⟨time, task, .log _, action, noted⟩,
      ⟨time', task, .countOutcome .failOpen, action', counted⟩]
    have open_ : Counts (attemptsKey world subject) [.failOpen] handler := ⟨rfl, rfl, rfl⟩
    have found : l.FindsFull (attemptsKey world subject) (first ++ handler)
        ↔ l.FindsFull (attemptsKey world subject) first := by
      simp [FindsFull, open_.readings, open_.looked]
    have all : (first ++ handler).filterMap Event.outcome?
        = first.filterMap Event.outcome? ++ [.failOpen] := by
      rw [List.filterMap_append, open_.outcomes]
    rcases tracked_does tracked with ⟨whole, decides⟩ | ⟨⟨e, he, broken⟩, -, few⟩
    · -- The section failed, before it counted anything.
      obtain ⟨none, room⟩ : first.filterMap Event.outcome? = []
          ∧ ¬l.FindsFull (attemptsKey world subject) first := by
        generalize first.filterMap Event.outcome? = counted at decides
        cases decides with
        | failed room f => exact ⟨rfl, room⟩
      rw [none] at all
      refine ⟨fun _ => ⟨.failOpen, all, by decide, by simp, ?_⟩, fun ⟨e, he, broken⟩ => ?_⟩
      · simpa using fun full => room (found.1 full)
      · rcases List.mem_append.1 he with he | he
        · rw [whole e he] at broken
          cases broken
        · simp only [List.mem_cons, List.not_mem_nil, or_false] at he
          rcases he with rfl | rfl <;> cases broken
    · refine ⟨fun whole => ?_, fun _ => ⟨rfl, _, all, few⟩⟩
      rw [whole e (List.mem_append_left _ he)] at broken
      cases broken

end Limiter

/-! ## Among other tasks -/

/-- What was counted was counted by one task, or by the others. -/
theorem count_outcomes_split (h : List Event) (i : Nat) (o : AttemptOutcome) :
    (h.filterMap Event.outcome?).count o = (outcomesOf h i).count o
      + ((h.filter (·.task ≠ i)).filterMap Event.outcome?).count o := by
  have perm := (List.filter_append_perm (fun e : Event => decide (e.task = i)) h).filterMap
    Event.outcome?
  rw [← perm.count_eq, List.filterMap_append, List.count_append, outcomesOf]
  simp only [decide_not]

/-- **One outcome an attempt.** Tasks run at any pace and in any order, whatever comes in the way of
    their commands, and one of them records an attempt. When it has returned it has counted exactly
    one outcome, which tells what it returned: that the cap is reached where, and only where, it was
    found so under the lock. Only where the release of its lock broke, it has returned no, and
    counted that it failed open after whatever the section had counted. -/
theorem counted_once {β : Type} {setting : Setting (Except Failure β)}
    {processes : List (Int × Proc (Except Failure β))} {s : System} {history : List Event}
    {final : Schedule (Except Failure β)}
    (run : Schedule.Run setting (Schedule.start processes s) history final) {i : Nat} {delay : Int}
    {l : Limiter} {world subject : String} {g : Bool → β} {b : β}
    (call : processes[i]? = some (delay, (g <$> l.recordFailure world subject).run))
    (ended : final.tasks[i]? = some (.ended (.ok b))) :
    ∃ limited, b = g limited
      ∧ ((∀ e ∈ history, e.task = i → e.breaks = false) →
        ∃ o, outcomesOf history i = [o] ∧ o ≠ .cleared ∧ (limited = true ↔ o = .rateLimited)
          ∧ (limited = true
            ↔ l.FindsFull (attemptsKey world subject) (history.filter (·.task = i))))
      ∧ ((∃ e ∈ history, e.task = i ∧ e.breaks) → limited = false
        ∧ ∃ inner, outcomesOf history i = inner ++ [.failOpen] ∧ inner.length ≤ 1)
      ∧ ((∀ s s', setting.outside s s' → s'.metrics = s.metrics) →
        (∀ e ∈ history, e.effect.own) → ∀ o : AttemptOutcome,
          final.system.metrics.outcomes.count o.name = s.metrics.outcomes.count o.name
            + (outcomesOf history i).count o
            + ((history.filter (·.task ≠ i)).filterMap Event.outcome?).count o) := by
  obtain ⟨first, es, mine, waits, does⟩ := run.does call ended
  obtain ⟨outcome, recorded, told⟩ := Routine.Does.of_map (r := l.recordFailure world subject) does
  obtain ⟨limited, rfl, rfl⟩ : ∃ limited, outcome = .ok limited ∧ b = g limited := by
    cases outcome with
    | ok limited => exact ⟨limited, rfl, Except.ok.inj told⟩
    | error f => cases told
  -- The wait before the call counts nothing and reads nothing.
  obtain ⟨time, task, effect, action, answer⟩ := first
  obtain rfl : effect = .wait delay := waits
  have counted : outcomesOf history i = es.filterMap Event.outcome? := by
    rw [outcomesOf, mine]
    rfl
  have found : l.FindsFull (attemptsKey world subject) (history.filter (·.task = i))
      ↔ l.FindsFull (attemptsKey world subject) es := by
    rw [mine]
    rfl
  have mem : ∀ e, (e ∈ history ∧ e.task = i)
      ↔ e = ⟨time, task, .wait delay, action, answer⟩ ∨ e ∈ es := by
    intro e
    rw [← List.mem_cons, ← mine, List.mem_filter]
    simp
  obtain ⟨whole, broken⟩ := Limiter.recordFailure_does recorded
  refine ⟨limited, rfl, fun unbroken => ?_, ?_, fun quiet own o => ?_⟩
  · rw [counted, found]
    refine whole fun e he => ?_
    obtain ⟨he, task⟩ := (mem e).2 (.inr he)
    exact unbroken e he task
  · rintro ⟨e, he, task, breaks⟩
    rw [counted]
    refine broken ⟨e, ?_, breaks⟩
    rcases (mem e).1 ⟨he, task⟩ with rfl | he
    · cases breaks
    · exact he
  · rw [run.outcomes quiet own, count_outcomes_split history i, ← Nat.add_assoc]
    rfl

/-! ## Runs of two attempts -/

/-- Two attempts under a cap of one, the second after the first. -/
def attemptThenFull : Option (List Event × Schedule (Except Failure CallResult)) :=
  (Call.sideBySide single (List.replicate 2 (0, .record 0 "w" "s")) {}).follow
    [(0, 0), (0, 5), (0, 10), (0, 15), (0, 20), (1, 100), (1, 110), (1, 120), (1, 130)]

theorem isSome_attemptThenFull : attemptThenFull.isSome := by decide +kernel

/-- The second attempt finds the cap reached, is told so, and is counted so, once. -/
theorem counted_once_of_attemptThenFull :
    ∃ history final, attemptThenFull = some (history, final)
      ∧ Task.toldLimited final.tasks[1]?
      ∧ outcomesOf history 1 = [.rateLimited]
      ∧ (single.limiter 0).FindsFull (attemptsKey "w" "s") (history.filter (·.task = 1))
      ∧ final.system.metrics.outcomes.count "rate_limited" = 1 := by
  obtain ⟨⟨history, final⟩, follows⟩ := Option.isSome_iff_exists.1 isSome_attemptThenFull
  have told : Task.toldLimited (attemptThenFull.bind (·.2.tasks[1]?)) := by decide +kernel
  have unbroken : ∀ e ∈ (attemptThenFull.map (·.1)).getD [], e.task = 1 → e.breaks = false := by
    decide +kernel
  have counters : (attemptThenFull.map (·.2.system.metrics.outcomes.count "rate_limited"))
      = some 1 := by decide +kernel
  rw [follows] at told unbroken counters
  have run : Schedule.Run {} (Call.sideBySide single (List.replicate 2 (0, .record 0 "w" "s")) {})
      history final := Schedule.run_of_follow (fun _ _ => trivial) follows
  have ended := Task.eq_of_toldLimited told
  have call : ((List.replicate 2 (0, .record 0 "w" "s")).map (Call.process single))[1]?
      = some (0, (.flag <$> (single.limiter 0).recordFailure "w" "s" : Routine CallResult).run) := by
    simp only [List.replicate, List.map, Call.process, Call.routine]
    rfl
  obtain ⟨limited, flag, once, -, -⟩ :=
    counted_once run call ended
  obtain ⟨⟩ := flag
  obtain ⟨o, outcome, -, limited, full⟩ := once unbroken
  obtain rfl := limited.1 rfl
  exact ⟨history, final, follows, told, outcome, full.1 rfl, by simpa using counters⟩

/-- A cap of one is reached, and the next release of a lock will fail in a way that is not the
    store's. -/
def fullBeforeBreak : System :=
  (Step.run single (Step.run single {} (.call (.record 0 "w" "s"))).1 (.call (.operate
    (.addFault { kind := .deleteIfEqual, action := .fail .runtime "boom" false })))).1

/-- The attempt finds the cap reached and counts that, is then counted once more, and is told no. -/
theorem counted_twice :
    let (s, result) := Step.run single fullBeforeBreak (.call (.record 0 "w" "s"))
    fullBeforeBreak.metrics.outcomes = [("allowed", 1)]
      ∧ s.metrics.outcomes = [("allowed", 1), ("rate_limited", 1), ("fail_open", 1)]
      ∧ result.flag? = some false := by
  decide +kernel

end Turnstile

import Turnstile.Proofs.Limiter.Cap
import Turnstile.Proofs.Limiter.Denial
import Turnstile.Proofs.Run.History
import Turnstile.Proofs.Run.Trace

set_option autoImplicit false

/-! # Dropping a record among writers

A record is dropped without its lock. Where no call was between its read and its write at that
moment, what is stored afterwards tells only of attempts that were recorded after
(`cleared_of_undisturbed`). A call that had read the record before, and writes after, brings back
all the attempts that it had read (`clear_undone`).

The invariant looks at every event that drops the record and tells of what was done since. -/

namespace Turnstile

/-! ## What was done since -/

/-- A record is dropped. -/
def Event.drops (key : String) (e : Event) : Bool :=
  match e.effect with
  | .command (.delete k) => k = key
  | _ => false

/-- A record is read. -/
def Event.reads (key : String) (e : Event) : Bool :=
  match e.effect with
  | .command (.get k) => k = key
  | _ => false

/-- A task has read the record under a key. -/
def HasRead (key : String) (h : List Event) (i : Nat) : Prop :=
  ∃ g ∈ h, g.task = i ∧ g.reads key

/-- No one writes the record after who had read it before. -/
def Undisturbed (key : String) (before after : List Event) : Prop :=
  ∀ x ∈ after, x.writes key → ¬HasRead key before x.task

instance (key : String) (before after : List Event) : Decidable (Undisturbed key before after) := by
  unfold Undisturbed HasRead
  infer_instance

theorem HasRead.append {key : String} {h : List Event} {i : Nat} (r : HasRead key h i) (e : Event) :
    HasRead key (h ++ [e]) i := by
  obtain ⟨g, hg, rest⟩ := r
  exact ⟨g, List.mem_append_left _ hg, rest⟩

namespace Stage

/-- A call that has got so far has written nothing. -/
def unwritten : Stage → Bool
  | .finished _ | .failed _ | .inside _ .written | .inside _ (.closing _) => false
  | _ => true

/-- A call that has got so far goes by a record that it has read. -/
def informed : Stage → Bool
  | .inside _ (.room ..) | .inside _ (.ready _) => true
  | _ => false

/-- What a call goes by tells of attempts that tasks recorded in a history. -/
def Tells (key : String) (h : List Event) : Stage → Prop
  | .inside _ (.room _ _ recent) => ∃ pairs, Recorders key h pairs ∧ recent = pairs.map (·.2)
  | .inside _ (.ready timestamps) => (Window.record timestamps).integersFit
      ∧ ∃ pairs now, Recorders key h pairs ∧ timestamps = pairs.map (·.2) ++ [now]
  | _ => True

theorem Tells.append {key : String} {h : List Event} {stage : Stage} (tells : stage.Tells key h)
    (e : Event) : stage.Tells key (h ++ [e]) := by
  cases stage with
  | inside hold phase =>
    cases phase with
    | room =>
      obtain ⟨pairs, recorders, rfl⟩ := tells
      exact ⟨pairs, recorders.append [e], rfl⟩
    | ready =>
      obtain ⟨fit, pairs, now, recorders, rfl⟩ := tells
      exact ⟨fit, pairs, now, recorders.append [e], rfl⟩
    | _ => trivial
  | _ => trivial

/-- A call that goes by no record tells of nothing. -/
theorem tells_of_uninformed {key : String} {h : List Event} {stage : Stage}
    (uninformed : stage.informed = false) : stage.Tells key h := by
  cases stage with
  | inside hold phase =>
    cases phase with
    | room | ready => cases uninformed
    | _ => trivial
  | _ => trivial

end Stage

/-! ## One step -/

section

variable {p : Site} {key : String} {v : World} {e : Event} {stage stage' : Stage}

theorem Site.closed_kept (hold : Hold) (reply : Except Failure Json) :
    (Stage.inside hold (kept reply)).unwritten = false
      ∧ (Stage.inside hold (kept reply)).informed = false := by
  fun_cases kept reply <;> exact ⟨rfl, rfl⟩

theorem Stage.unseen_ne_dropped (f : Failure) : Stage.unseen f ≠ .dropped := by
  unfold unseen
  split <;> simp

theorem Stage.informed_of_free {stage : Stage} (free : stage.hold? = none) :
    stage.informed = false := by
  cases stage with
  | inside => cases free
  | _ => rfl

/-- A call that has written nothing after a step had not before, and the step is no write. -/
theorem Site.Step.unwritten (step : p.Step stage e stage') (h : stage'.unwritten) :
    stage.unwritten ∧ e.put? key = none := by
  cases step with
  | log | count => exact ⟨h, rfl⟩
  | drop _ isOpen | draw _ isOpen =>
    refine ⟨?_, rfl⟩
    cases stage <;> first | rfl | cases isOpen
  | write =>
    rw [(closed_kept _ _).1] at h
    cases h
  | allow | release => cases h
  | _ => exact ⟨rfl, rfl⟩

theorem Site.informed_tried (token : Nat) (time : Int) (reply : Except Failure Json) :
    (tried token time reply).informed = false ∧ tried token time reply ≠ .dropped := by
  cases reply with
  | ok reply =>
    rw [tried]
    split <;> exact ⟨rfl, by simp⟩
  | error f =>
    rw [tried]
    split <;> exact ⟨rfl, by simp⟩

/-- A call that goes by a record after a step did nothing, or has just read the record, or has just
    found that its lock has not run out. -/
theorem Site.Step.informed_cases (step : p.Step stage e stage') (h : stage'.informed) :
    stage = stage'
      ∨ (∃ hold acquired now time task action, ∃ reply : Except Failure Json,
        stage = .inside hold (.timed acquired now)
        ∧ e = ⟨time, task, .command (.get p.key), action, reply⟩
        ∧ stage' = .inside hold (p.judge acquired now reply))
      ∨ ∃ hold acquired now recent, ∃ reading : Except Failure Binary64,
        stage = .inside hold (.room acquired now recent)
        ∧ stage' = .inside hold (p.prepare acquired (recent ++ [now]) reading) := by
  cases step with
  | log | count => exact .inl rfl
  | judge => exact .inr (.inl ⟨_, _, _, _, _, _, _, rfl, rfl, rfl⟩)
  | prepare => exact .inr (.inr ⟨_, _, _, _, _, rfl, rfl⟩)
  | look =>
    rw [Stage.informed_of_free (hold?_seen _).1] at h
    cases h
  | weigh =>
    rw [Stage.informed_of_free (hold?_weigh p _ _).1] at h
    cases h
  | drop =>
    rw [Stage.informed_of_free (hold?_dropped _).1] at h
    cases h
  | contend =>
    rw [(informed_tried _ _ _).1] at h
    cases h
  | handle =>
    rename_i reading
    cases reading <;> cases h
  | time =>
    rename_i reading
    cases reading <;> cases h
  | write =>
    rw [(closed_kept _ _).2] at h
    cases h
  | _ => cases h

/-- A call that has dropped the record after a step had done so before, or does it now. -/
theorem Site.Step.dropped (step : p.Step stage e stage') (h : stage' = .dropped) :
    stage = .dropped ∨ e.drops p.key := by
  cases step with
  | log | count => exact .inl h
  | drop => exact .inr (by simp [Event.drops])
  | look =>
    rw [seen] at h
    split at h
    · cases h
    · exact absurd h (Stage.unseen_ne_dropped _)
  | weigh =>
    rw [Site.weigh] at h
    split at h
    · cases h
    · exact absurd h (Stage.unseen_ne_dropped _)
  | contend => exact absurd h (informed_tried _ _ _).2
  | handle =>
    rename_i reading
    cases reading <;> cases h
  | _ => cases h

/-- What a call goes by after a step tells of recorded attempts, if the record and what it went by
    before did. -/
theorem Site.Step.tells {h : List Event} (step : p.Step stage e stage') (hkey : p.key = key)
    (perform : e.action = .perform) (admits : v.Admits e)
    (entry : ∀ entry, v.store.get? v.now key = some entry → Written key h entry)
    (tells : stage.Tells key h) : stage'.Tells key (h ++ [e]) := by
  subst hkey
  by_cases informed : stage'.informed = true
  · rcases step.informed_cases informed with rfl
      | ⟨hold, acquired, now, time, task, action, reply, rfl, rfl, rfl⟩
      | ⟨hold, acquired, now, recent, reading, rfl, rfl⟩
    · exact tells.append e
    · cases perform
      rw [Site.judge]
      split
      · next recent hr =>
        split
        · trivial
        · -- What was read is a record of attempts that were recorded in the history.
          obtain ⟨value, hv, hrecent⟩ : ∃ value, Site.stored reply = .ok value
              ∧ p.limiter.recent value now = .ok recent := by
            cases hv : Site.stored reply with
            | ok value => exact ⟨value, rfl, by rwa [hv] at hr⟩
            | error f =>
              rw [hv] at hr
              cases hr
          have found : Found p.key h v.now value :=
            Found.of_stored (v := { v with history := h }) entry (by simp [FaultAction.Honest])
              admits.answer hv
          obtain ⟨pairs, recorders, rfl, -, -⟩ := found.recent hrecent
          exact ⟨pairs, recorders.append _, rfl⟩
      · trivial
    · obtain ⟨pairs, recorders, rfl⟩ := tells
      fun_cases Site.prepare p acquired (pairs.map (·.2) ++ [now]) reading with
      | case2 later _ fit => exact ⟨fit, pairs, now, recorders.append _, rfl⟩
      | _ => trivial
  · exact Stage.tells_of_uninformed (by simpa using informed)

end

/-! ## The run -/

/-- What has become of the record and of the calls since the record was dropped. -/
structure Restarted (key : String) (before after : List Event) (v : World) (stages : Nat → Stage) :
    Prop where
  entry : ∀ entry, v.store.get? v.now key = some entry → Written key after entry
  calls : ∀ i, HasRead key before i ∨ (stages i).Tells key after

/-- What holds throughout a run of calls on one record. -/
structure Clearing (key : String) (v : World) (stages : Nat → Stage) : Prop where
  unwritten : ∀ i, (stages i).unwritten → Unwritten key v.history i
  informed : ∀ i, (stages i).informed → HasRead key v.history i
  dropped : ∀ i, stages i = .dropped → ∃ d ∈ v.history, d.task = i ∧ d.drops key
  since : ∀ before d after, v.history = before ++ d :: after → d.drops key →
    Undisturbed key before after → Restarted key before after v stages

theorem Event.writes_of_put {e : Event} {key text : String} {ttl : Int}
    (put : e.put? key = some (text, ttl)) : e.writes key := by
  unfold put? at put
  split at put
  · next effect =>
    split at put
    · next h => simp [writes, effect, h.1]
    · cases put
  · cases put

theorem Event.reads_of_drops {e : Event} {key : String} (drops : e.drops key) :
    e.reads key = false := by
  unfold Event.drops at drops
  split at drops
  · next effect => simp [reads, effect]
  · cases drops

/-- After a record was dropped there is none. -/
theorem World.get?_add_of_drops {v : World} {e : Event} {key : String} (drops : e.drops key)
    (perform : e.action = .perform) : (v.add e).store.get? v.now key = none := by
  obtain ⟨time, task, effect, action, answer⟩ := e
  cases perform
  unfold Event.drops at drops
  split at drops
  · next k same =>
    cases same
    obtain rfl : k = key := by simpa using drops
    show (Command.perform v.now v.store (.delete k)).1.get? v.now k = none
    rw [Command.perform]
    split
    · simp [Store.get?_erase]
    · assumption
  · cases drops

namespace Clearing

variable {key : String} {sites : Nat → Site} {v : World} {stages : Nat → Stage}

/-- The record is dropped now: what calls go by that have read it they had read before. -/
theorem restarted_of_drops {e : Event} {stages : Nat → Stage} (drops : e.drops key)
    (perform : e.action = .perform)
    (informed : ∀ i, (stages i).informed → HasRead key (v.history ++ [e]) i) :
    Restarted key v.history [] (v.add e) stages := by
  refine ⟨fun entry found => ?_, fun i => ?_⟩
  · rw [World.add_now, World.get?_add_of_drops drops perform] at found
    cases found
  · by_cases h : (stages i).informed = true
    · obtain ⟨g, hg, task, reads⟩ := informed i h
      rcases List.mem_append.1 hg with hg | hg
      · exact .inl ⟨g, hg, task, reads⟩
      · rw [List.mem_singleton.1 hg, Event.reads_of_drops drops] at reads
        cases reads
    · exact .inr (Stage.tells_of_uninformed (by simpa using h))

/-- What was done since the record was dropped goes on. -/
theorem restarted_event (keys : ∀ i, (sites i).key = key) (locks : ∀ i, (sites i).lock ≠ key)
    {e : Event} {stage : Stage} (admits : v.Admits e) (perform : e.action = .perform)
    (step : (sites e.task).Step (stages e.task) e stage)
    (unwritten : (stages e.task).unwritten → Unwritten key v.history e.task)
    {before rest : List Event} {d : Event} (split : v.history = before ++ d :: rest)
    (undisturbed : Undisturbed key before (rest ++ [e]))
    (restarted : Restarted key before rest v stages) :
    Restarted key before (rest ++ [e]) (v.add e) (Function.update stages e.task stage) := by
  have noLock := noLock_of_step step fun _ => locks e.task
  refine ⟨fun entry found => ?_, fun i => ?_⟩
  · cases put : e.put? key with
    | none => exact (restarted.entry entry (World.get?_of_add put noLock found)).append put
    | some written =>
      -- The writer has not read what was dropped, and so it adds to a record that is new.
      obtain ⟨text, ttl⟩ := written
      obtain ⟨-, -, hold, timestamps, ready, rfl⟩ := ready_of_put step put
      have informed : ¬HasRead key before e.task :=
        undisturbed e (by simp) (Event.writes_of_put put)
      have tells := (restarted.calls e.task).resolve_left informed
      rw [ready] at tells unwritten
      obtain ⟨fit, pairs, now, recorders, rfl⟩ := tells
      have fresh : Unwritten key rest e.task := by
        intro x hx
        exact unwritten rfl x (by simp [split, hx])
      rw [World.add_now, World.get?_add_of_put put, Option.some.injEq, ← admits.time] at found
      rw [← found]
      exact recorders.written fresh fit put
  · by_cases hi : i = e.task
    · subst hi
      rw [Function.update_self]
      refine (restarted.calls e.task).imp_right fun tells => ?_
      exact step.tells (keys _) perform admits restarted.entry tells
    · rw [Function.update_of_ne hi]
      exact (restarted.calls i).imp_right fun tells => tells.append e

/-- What a call does keeps the invariant. -/
theorem event (inv : Clearing key v stages) (keys : ∀ i, (sites i).key = key)
    (locks : ∀ i, (sites i).lock ≠ key) {e : Event} {stage : Stage} (admits : v.Admits e)
    (perform : e.action = .perform) (step : (sites e.task).Step (stages e.task) e stage) :
    Clearing key (v.add e) (Function.update stages e.task stage) := by
  have informed : ∀ i, (Function.update stages e.task stage i).informed →
      HasRead key (v.history ++ [e]) i := by
    intro i h
    by_cases hi : i = e.task
    · subst hi
      rw [Function.update_self] at h
      rcases step.informed_cases h with same | ⟨_, _, _, _, _, _, _, -, read, -⟩
        | ⟨_, _, _, _, _, before, -⟩
      · exact (inv.informed _ (same ▸ h)).append e
      · have effect : e.effect = .command (.get key) := by
          rw [← keys e.task]
          exact congrArg Event.effect read
        refine ⟨e, List.mem_append_right _ (List.mem_singleton_self _), rfl, ?_⟩
        simp [Event.reads, effect]
      · exact (inv.informed _ (by rw [before]; rfl)).append e
    · rw [Function.update_of_ne hi] at h
      exact (inv.informed i h).append e
  refine ⟨fun i h => ?_, informed, fun i h => ?_, ?_⟩
  · by_cases hi : i = e.task
    · subst hi
      rw [Function.update_self] at h
      obtain ⟨before, put⟩ := step.unwritten h
      exact (inv.unwritten _ before).append fun _ => put
    · rw [Function.update_of_ne hi] at h
      exact (inv.unwritten i h).append fun task => absurd task.symm hi
  · have later : (∃ d ∈ v.history, d.task = i ∧ d.drops key) →
        ∃ d ∈ (v.add e).history, d.task = i ∧ d.drops key := by
      rintro ⟨d, hd, rest⟩
      exact ⟨d, List.mem_append_left _ hd, rest⟩
    by_cases hi : i = e.task
    · subst hi
      rw [Function.update_self] at h
      rcases step.dropped h with before | drops
      · exact later (inv.dropped _ before)
      · rw [keys] at drops
        exact ⟨e, List.mem_append_right _ (List.mem_singleton_self _), rfl, drops⟩
    · rw [Function.update_of_ne hi] at h
      exact later (inv.dropped i h)
  · intro before d after split drops undisturbed
    rcases snoc_cases split with ⟨rfl, rfl, rfl⟩ | ⟨rest, old, rfl⟩
    · exact restarted_of_drops drops perform informed
    · have earlier : Undisturbed key before rest :=
        fun x hx => undisturbed x (List.mem_append_left _ hx)
      exact restarted_event keys locks admits perform step (inv.unwritten _) old undisturbed
        (inv.since before d rest old drops earlier)

/-- It takes no more than the history and the entry under the key. -/
theorem later (inv : Clearing key v stages) {v' : World} (history : v'.history = v.history)
    (store : v'.store = v.store) (later : v.now ≤ v'.now) : Clearing key v' stages := by
  constructor
  · rw [history]
    exact inv.unwritten
  · rw [history]
    exact inv.informed
  · rw [history]
    exact inv.dropped
  · rw [history]
    intro before d after split drops undisturbed
    obtain ⟨entry, calls⟩ := inv.since before d after split drops undisturbed
    refine ⟨fun e found => entry e (Store.get?_earlier later ?_), calls⟩
    rw [← store]
    exact found

theorem keeps {instances : Instances} {calls : List Delayed} {p : Site}
    (keys : ∀ i, (Call.siteAt instances calls p i).key = key)
    (locks : ∀ i, (Call.siteAt instances calls p i).lock ≠ key) :
    (Call.regime instances calls p drifting (· = .perform)).Keeps fun v stages =>
      Clearing key v stages where
  perform := rfl
  event _ _ _ _ inv admits perform step := inv.event keys locks admits perform step
  pass _ _ _ _ inv _ later _ := inv.later rfl rfl later
  outside := by
    intro s s' h stages inv tame change
    obtain ⟨skews, rfl⟩ := change
    exact ⟨inv.later rfl rfl (Int.le_refl _), tame⟩

end Clearing

/-! ## Dropping a record -/

namespace Call

/-- The call drops the record of a pair: directly, or as a check that matches. -/
def Clears (world subject : String) (call : Call) : Prop :=
  call = .clear world subject ∨ ∃ i requestId plain hashed,
    call = .check i requestId world subject plain hashed

theorem Clears.site {world subject : String} {call : Call} (clears : call.Clears world subject)
    (instances : Instances) :
    ∃ p, call.site? instances = some p ∧ p.world = world ∧ p.subject = subject := by
  rcases clears with rfl | ⟨i, requestId, plain, hashed, rfl⟩ <;> exact ⟨_, rfl, rfl, rfl⟩

/-- A call that drops the record of a pair and others that record its attempts all work on it. -/
theorem Clears.sites {world subject : String} {clearing : Call}
    (clears : clearing.Clears world subject) {calls : List Delayed} {j : Nat} {start : Int}
    (hj : calls[j]? = some (start, clearing))
    (records : ∀ i call, calls[i]? = some call → i ≠ j → ∃ n, call.2 = .record n world subject)
    (instances : Instances) : ∀ call ∈ calls, ∃ p, call.2.site? instances = some p
      ∧ p.world = world ∧ p.subject = subject := by
  intro call hc
  obtain ⟨i, hi⟩ := List.getElem?_of_mem hc
  by_cases hij : i = j
  · subst hij
    rw [hj, Option.some.injEq] at hi
    rw [← hi]
    exact clears.site instances
  · obtain ⟨n, h⟩ := records i call hi hij
    rw [h]
    exact ⟨_, rfl, rfl, rfl⟩

/-- Where all calls work on the record of one pair, so does every task. -/
theorem siteAt_keys {instances : Instances} {calls : List Delayed} {world subject : String}
    {q : Site} (hq : q.world = world ∧ q.subject = subject)
    (site : ∀ call ∈ calls, ∃ p, call.2.site? instances = some p ∧ p.world = world
      ∧ p.subject = subject) (i : Nat) :
    (siteAt instances calls q i).key = attemptsKey world subject
      ∧ (siteAt instances calls q i).lock = lockKey world subject := by
  have shared : (siteAt instances calls q i).world = world
      ∧ (siteAt instances calls q i).subject = subject := by
    refine siteAt_all (Q := fun p => p.world = world ∧ p.subject = subject) hq
      (fun call hc p hp => ?_) i
    obtain ⟨p', hp', pair⟩ := site call hc
    obtain rfl : p = p' := Option.some.inj (hp.symm.trans hp')
    exact pair
  rw [Site.key, Site.lock, shared.1, shared.2]
  exact ⟨rfl, rfl⟩

/-- A call that drops a record and has succeeded has dropped it. -/
theorem Clears.dropped {world subject : String} {call : Call} (clears : call.Clears world subject)
    {result : CallResult} (success : result ≠ .flag false) {stage : Stage}
    (ends : call.Ends (.ok result) stage) : stage = .dropped := by
  rcases clears with rfl | ⟨i, requestId, plain, hashed, rfl⟩
  · obtain ⟨outcome, same, ends⟩ := ends
    cases ends with
    | dropped => rfl
    | failed f => cases same
  · obtain ⟨outcome, same, ends⟩ := ends
    refine ends.matched ?_
    cases outcome with
    | error f => cases same
    | ok b =>
      cases same
      cases b with
      | true => rfl
      | false => exact absurd rfl success

end Call

/-- **Dropping a record among writers.** One call drops the record of a pair, directly or as a check
    that matches, while others record attempts of the pair, at any pace and in any order. Once it
    has succeeded it has dropped the record at some moment; and if none of the others that had read
    the record before that moment wrote it after, then what is stored now is nothing, or a record of
    attempts that different ones of the others recorded after. -/
theorem cleared_of_undisturbed {instances : Instances} {calls : List Delayed}
    {world subject : String} {j : Nat} {start : Int} {clearing : Call} {s : System}
    {history : List Event} {final : Schedule (Except Failure CallResult)} {result : CallResult}
    (clears : clearing.Clears world subject) (hj : calls[j]? = some (start, clearing))
    (records : ∀ i call, calls[i]? = some call → i ≠ j → ∃ n, call.2 = .record n world subject)
    (latency : ∀ f ∈ s.faults, f.action = .perform)
    (run : (Call.sideBySide instances calls s).Run drifting history final)
    (ended : final.tasks[j]? = some (.ended (.ok result))) (success : result ≠ .flag false) :
    ∃ before d after, history = before ++ d :: after ∧ d.task = j
      ∧ d.drops (attemptsKey world subject)
      ∧ (Undisturbed (attemptsKey world subject) before after →
        ∀ entry, final.system.get? (attemptsKey world subject) = some entry →
          ∃ pairs, Recorders (attemptsKey world subject) after pairs
            ∧ entry.value = (Window.record (pairs.map (·.2))).write .stored
            ∧ ∀ w ∈ pairs, ∃ delay n, calls[w.1]? = some (delay, .record n world subject)) := by
  -- All calls work on the same record and the same lock.
  have site := clears.sites hj records instances
  obtain ⟨q, -, pair⟩ := clears.site instances
  have keys : ∀ i, (Call.siteAt instances calls q i).key = attemptsKey world subject :=
    fun i => (Call.siteAt_keys pair site i).1
  have locks : ∀ i, (Call.siteAt instances calls q i).lock ≠ attemptsKey world subject := by
    intro i
    rw [(Call.siteAt_keys pair site i).2]
    exact (attemptsKey_ne_lockKey world subject).symm
  have sites : ∀ call ∈ calls, (call.2.site? instances).isSome := by
    intro call hc
    obtain ⟨p, hp, -⟩ := site call hc
    rw [hp]
    rfl
  have begun : Clearing (attemptsKey world subject) (.of s []) fun _ => .delayed := by
    refine ⟨fun i _ => ?_, fun i h => (by cases h), fun i h => (by cases h), ?_⟩
    · simp [Unwritten, World.of]
    · intro before d after split
      cases before <;> cases split
  obtain ⟨stages, inv, rest, -⟩ := run.invariant (Clearing.keeps keys locks) begun
    (Call.atRest_sideBySide (by rfl) sites s) latency
  obtain ⟨call, hcall, ends⟩ := rest.1 j _ ended
  rw [hj] at hcall
  cases hcall
  have dropped := clears.dropped success ends
  obtain ⟨d, hd, task, drops⟩ := inv.dropped j dropped
  obtain ⟨before, after, split⟩ := List.append_of_mem hd
  refine ⟨before, d, after, split, task, drops, fun undisturbed entry found => ?_⟩
  obtain ⟨⟨pairs, recorders, -, value⟩, -⟩ :=
    (inv.since before d after split drops undisturbed).entry entry found
  refine ⟨pairs, recorders, value, fun w hw => ?_⟩
  obtain ⟨e, he, htask, earlier, ttl, put⟩ := recorders.recorded w hw
  have mem : e ∈ history := by
    rw [show history = _ from split]
    exact List.mem_append_right _ (List.mem_cons_of_mem _ he)
  obtain ⟨call, hw⟩ := Call.exists_call run rfl mem
  have other : e.task ≠ j := by
    intro same
    have unwritten := inv.unwritten j (by rw [dropped]; rfl) e mem same
    rw [unwritten] at put
    cases put
  obtain ⟨n, h⟩ := records _ _ hw other
  rw [← htask]
  exact ⟨_, n, hw.trans (congrArg some (Prod.ext rfl h))⟩

/-! ## A record that comes back -/

/-- There is a record of one attempt, which was a second ago. -/
def secondLater : System :=
  ((Step.run ⟨[{}]⟩ (Step.run ⟨[{}]⟩ {} (.call (.record 0 "w" "s"))).1
    (.call (.wait 1000))).1.observe ()).1

/-- An attempt is recorded, while the record is dropped by a task that holds some other lock. -/
def attemptAndDrop : List Delayed :=
  [(0, .record 0 "w" "s"), (0, .holding "" "k" ⟨5000, 0, 100⟩ [.clear "w" "s"] none)]

/-- The attempt and the drop side by side. -/
def dropBeforeWrite : Schedule (Except Failure CallResult) :=
  Call.sideBySide ⟨[{}]⟩ attemptAndDrop secondLater

theorem run_dropBeforeWrite : dropBeforeWrite.run = dropBeforeWrite.after 9 :=
  Schedule.run_eq_after (Option.isNone_iff_eq_none.1 (by decide +kernel))

/-- Where the record is dropped between a call's read and its write, the write brings back the
    attempt of a second ago beside its own. -/
theorem clear_undone :
    let s := (Step.run ⟨[{}]⟩ secondLater (.parallel attemptAndDrop)).1
    (secondLater.get? (attemptsKey "w" "s")).map Entry.value
        = some ((Window.record [1700000000000]).write .stored)
      ∧ s.accesses.map (fun a => (a.task, a.command.kind))
        = [(0, .setIfAbsent), (1, .setIfAbsent), (0, .get), (1, .delete), (0, .set),
          (1, .deleteIfEqual), (0, .deleteIfEqual)]
      ∧ (s.get? (attemptsKey "w" "s")).map Entry.value
        = some ((Window.record [1700000000000, 1700000001000]).write .stored) := by
  show _ ∧ dropBeforeWrite.run.system.accesses.map _ = _
    ∧ (dropBeforeWrite.run.system.get? _).map _ = _
  rw [run_dropBeforeWrite]
  decide +kernel

/-- Turns of an attempt whose record is dropped before the call reads it. -/
def dropBeforeRead : Option (List Event × Schedule (Except Failure CallResult)) :=
  (Call.sideBySide ⟨[{}]⟩ [(0, .record 0 "w" "s"), (0, .clear "w" "s")] secondLater).follow
    [(0, 1000), (0, 1001), (1, 1002), (1, 1003), (0, 1004), (0, 1005), (0, 1006)]

theorem isSome_dropBeforeRead : dropBeforeRead.isSome := by decide +kernel

/-- A task has ended with nothing to tell. -/
def Task.cleared : Option (Task (Except Failure CallResult)) → Bool
  | some (.ended (.ok .nothing)) => true
  | _ => false

theorem Task.eq_of_cleared {task : Option (Task (Except Failure CallResult))}
    (h : Task.cleared task) : task = some (.ended (.ok .nothing)) := by
  unfold Task.cleared at h
  split at h
  · rfl
  · cases h

/-- What is stored then tells of the one attempt that was recorded after the drop. -/
theorem cleared_of_undisturbed_of_dropBeforeRead :
    ∃ history final entry, dropBeforeRead = some (history, final)
      ∧ final.system.get? (attemptsKey "w" "s") = some entry
      ∧ ∃ before d after pairs, history = before ++ d :: after ∧ d.task = 1
        ∧ Recorders (attemptsKey "w" "s") after pairs
        ∧ entry.value = (Window.record (pairs.map (·.2))).write .stored := by
  obtain ⟨⟨history, final⟩, follows⟩ := Option.isSome_iff_exists.1 isSome_dropBeforeRead
  have ended : Task.cleared (dropBeforeRead.bind (·.2.tasks[1]?)) := by decide +kernel
  have stored : (dropBeforeRead.bind (·.2.system.get? (attemptsKey "w" "s"))).isSome := by
    decide +kernel
  have undisturbed : ∀ k < ((dropBeforeRead.map (·.1)).getD []).length,
      (((dropBeforeRead.map (·.1)).getD [])[k]?).any (Event.drops (attemptsKey "w" "s")) →
      Undisturbed (attemptsKey "w" "s") (((dropBeforeRead.map (·.1)).getD []).take k)
        (((dropBeforeRead.map (·.1)).getD []).drop (k + 1)) := by decide +kernel
  rw [follows] at ended stored undisturbed
  obtain ⟨entry, found⟩ := Option.isSome_iff_exists.1 stored
  have records : ∀ i call, ([(0, .record 0 "w" "s"), (0, .clear "w" "s")] : List Delayed)[i]?
      = some call → i ≠ 1 → ∃ n, call.2 = .record n "w" "s" := by
    intro i call hcall other
    match i with
    | 0 =>
      cases hcall
      exact ⟨0, rfl⟩
    | 1 => exact absurd rfl other
    | i + 2 => cases hcall
  have faultless : secondLater.faults = [] := List.isEmpty_iff.1 (by decide +kernel)
  have free : ∀ c t, drifting.mayPass c t := fun _ _ => trivial
  obtain ⟨before, d, after, split, task, drops, rest⟩ :=
    cleared_of_undisturbed (.inl rfl) rfl records (by simp [faultless])
      (Schedule.run_of_follow free follows) (Task.eq_of_cleared ended) (by simp)
  have here := undisturbed before.length (by simp [split]) (by simp [split, drops])
  obtain ⟨pairs, recorders, value, -⟩ := rest (by simpa [split] using here) entry found
  exact ⟨history, final, entry, follows, found, before, d, after, pairs, split, task, recorders,
    value⟩

end Turnstile

import Mathlib.Algebra.Group.Int.Defs
import Turnstile.Proofs.Lock.Doings
import Turnstile.Proofs.Lock.Ledger

set_option autoImplicit false

/-! # What is left of a token

A task that visits a lock, to hold it for something or to record an attempt under it, draws one
token for that. If the token still stands when the visit is over, the ledger traces it to a try of
that visit, since which no release took effect (`Lock.Ledger.putWithin`). But a visit that was
granted the lock ends with a release, if it got a handle. So the token is gone at the end, however
the visit came to it, unless the monotonic clock could not be read for the handle
(`Lock.token_after_visit`).

Where the lock was not had there is no release. Then the token stands only if a try took effect and
was told of a failure, or was granted and the clock could not be read, and only until it runs out
(`Lock.token_after_failure`). -/

namespace Turnstile

namespace Lock

/-! ## Where a token was put -/

/-- What stands in two lists joined stands in the one or in the other. -/
theorem split_append {first last l r : List Event} {g : Event} (h : l ++ r = first ++ g :: last) :
    (∃ mid, l = first ++ g :: mid ∧ last = mid ++ r)
      ∨ ∃ mid, first = l ++ mid ∧ r = mid ++ g :: last := by
  rcases List.append_eq_append_iff.1 h with later | ⟨mid, rfl, rest⟩
  · exact .inr later
  · cases mid with
    | nil => exact .inr ⟨[], by simp, by simpa using rest.symm⟩
    | cons x mid =>
      obtain ⟨rfl, rfl⟩ := List.cons.inj rest
      exact .inl ⟨mid, rfl, rfl⟩

variable {key : String}

/-- A part of what a task did put a token: a try did, of which its task was told or which failed
    after its effect. No earlier try of that part was granted, and no later release took effect. -/
structure PutWithin (key : String) (token : Nat) (entry : Entry) (es : List Event) (g : Event)
    (ttl : Int) (first last : List Event) : Prop where
  split : es = first ++ g :: last
  stores : Stores key token ttl g
  expiry : entry.expiry = some (g.time + ttl)
  pending : ∀ e ∈ first, ∀ ttl, e.grant? key ≠ some (tokenText token, ttl)
  kept : ∀ r ∈ last, r.release? key = some (tokenText token) → r.action.performs = false

/-- **Where a token was put.** A token that stands was put after its task drew it, and before the
    task stopped trying as it. -/
theorem Ledger.putWithin {first : Nat} {v : World} {stages : Nat → Option Nat}
    (ledger : Ledger key first v stages) {i n : Nat} {x : Event} {pre es post : List Event}
    (split : v.history.filter (·.task = i) = pre ++ x :: es ++ post) (draws : x.draws? = some n)
    (ceased : ∀ e ∈ post, ¬PutsToken key n e) {entry : Entry}
    (found : v.store.get? v.now key = some entry) (mine : entry.value = tokenText n) :
    ∃ g ttl before after, PutWithin key n entry es g ttl before after := by
  have hx : x ∈ v.history ∧ x.task = i := by
    have mem : x ∈ v.history.filter (·.task = i) := by simp [split]
    simpa using mem
  have new := (ledger.drawn x hx.1 n draws).1
  obtain ⟨before, g, after, ttl, whole, stores, expiry, kept⟩ := ledger.found n new entry found mine
  have puts : PutsToken key n g := ⟨_, stores.1, rfl, rfl⟩
  obtain ⟨-, ⟨y, hy, task, draws'⟩, pending⟩ := ledger.rightful before g after whole n puts
  obtain rfl : x = y := ledger.task_eq hx.1 (by simp [whole, hy]) draws draws'
  have own : g.task = i := task.symm.trans hx.2
  rw [List.append_assoc, List.cons_append] at split
  have parts : pre ++ x :: (es ++ post)
      = before.filter (·.task = i) ++ g :: after.filter (·.task = i) := by
    rw [← split, whole, List.filter_append, List.filter_cons_of_pos (by simpa)]
  rcases split_append parts with ⟨mid, early, -⟩ | ⟨mid, begins, rest⟩
  · -- The task would have drawn the same token twice.
    have apart : (pre ++ x :: (es ++ post)).Pairwise Apart := split ▸ ledger.apart.filter _
    have twice : x ∈ pre := by
      rw [early]
      exact List.mem_append_left _ (by simp [hy, hx.2])
    exact absurd draws ((List.pairwise_append.1 apart).2.2 x twice x (by simp) n draws)
  · cases mid with
    | nil =>
      obtain ⟨rfl, -⟩ := List.cons.inj rest
      exact absurd puts (not_puts_of_draws? draws)
    | cons z mid =>
      rw [List.cons_append, List.cons.injEq] at rest
      obtain ⟨rfl, rest⟩ := rest
      rcases split_append rest with ⟨last, split, tail⟩ | ⟨_, -, late⟩
      · refine ⟨g, ttl, mid, last, split, stores, expiry, fun e he => pending e ?_,
          fun r hr => kept r ?_⟩
        · exact (List.mem_filter.1 (begins ▸ by simp [he] : e ∈ before.filter (·.task = i))).1
        · exact (List.mem_filter.1 (tail ▸ by simp [hr] : r ∈ after.filter (·.task = i))).1
      · exact absurd puts (ceased g (by simp [late]))

/-! ## Visits -/

/-- Nothing is done to the store. -/
def Idle (es : List Event) : Prop := ∀ e ∈ es, ∀ c, e.effect ≠ .command c

/-- A task visits the lock under a key: all that it does, from start to end, is to hold the lock for
    something, whatever that is, or to record an attempt under it. -/
inductive Visit (key : String) (o : LockOptions) (task : Nat) (es : List Event) : Prop where
  | holding {α : Type} {body : LockHandle → Routine α} {outcome : Except Failure α}
      (does : (Lock.holding key o body).Does task es outcome)
  | recording {l : Limiter} {world subject : String} {outcome : Except Failure Bool}
      (lock : lockKey world subject = key) (options : l.config.lock = o)
      (does : (l.recordFailure world subject).Does task es outcome)

variable {o : LockOptions} {task : Nat} {es : List Event}

/-- What is done after the tries: nothing where the lock was not had, and else something that comes
    to a release. -/
def Closes (key : String) (n : Nat) (outcome : Except Failure LockHandle) (rest : List Event) :
    Prop :=
  match outcome with
  | .error _ => Idle rest
  | .ok _ => ∃ middle r tail, rest = middle ++ r :: tail
    ∧ r.release? key = some (tokenText n) ∧ Idle tail

/-- A lock that is held is released. -/
theorem holding_closes {α : Type} {body : LockHandle → Routine α} {outcome : Except Failure α}
    (h : (holding key o body).Does task es outcome) :
    ∃ time action n tried rest acquired,
      es = ⟨time, task, .freshToken, action, n⟩ :: (tried ++ rest)
      ∧ Tried key (tokenText n) o.ttl tried acquired ∧ Closes key n acquired rest := by
  rcases holding_does h with ⟨f, acquires, -⟩
    | ⟨handle, inner, released, first, middle, last, rfl, acquires, -, releases, -⟩
  · obtain ⟨time, action, n, tried, rfl, tries⟩ := acquire_does acquires
    exact ⟨time, action, n, tried, [], .error f, by simp, tries, by simp [Closes, Idle]⟩
  · obtain ⟨time, action, n, tried, rfl, tries⟩ := acquire_does acquires
    obtain ⟨same, token, -⟩ := tries.granted handle rfl
    obtain ⟨time', action', reply, logs, rfl, idle, -⟩ := release_does releases
    refine ⟨time, action, n, tried, middle ++ _ :: logs, .ok handle, by simp; rfl, tries, middle, _,
      logs, rfl, ?_, ?_⟩
    · rw [same, token]
      exact Event.release?_of_effect rfl
    · intro e he c effect
      obtain ⟨entry, log⟩ := idle e he
      cases log.symm.trans effect

theorem Closes.append {n : Nat} {acquired : Except Failure LockHandle} {rest more : List Event}
    (closes : Closes key n acquired rest) (idle : Idle more) :
    Closes key n acquired (rest ++ more) := by
  cases acquired with
  | error f => exact List.forall_mem_append.2 ⟨closes, idle⟩
  | ok handle =>
    obtain ⟨middle, r, tail, rfl, release, quiet⟩ := closes
    exact ⟨middle, r, tail ++ more, by simp, release, List.forall_mem_append.2 ⟨quiet, idle⟩⟩

/-- A visit begins with a draw and tries as the token, and closes with a release if the lock was had.
    -/
theorem Visit.closes (visit : Visit key o task es) :
    ∃ time action n tried rest acquired,
      es = ⟨time, task, .freshToken, action, n⟩ :: (tried ++ rest)
      ∧ Tried key (tokenText n) o.ttl tried acquired ∧ Closes key n acquired rest := by
  cases visit with
  | holding does => exact holding_closes does
  | @recording l world subject outcome lock options does =>
    subst lock options
    rcases Routine.Does.catching_cases does with ⟨b, holds, -⟩ | ⟨f, holds, -, -⟩
      | ⟨f, first, more, rfl, holds, -, handles⟩
    · exact holding_closes holds
    · exact holding_closes holds
    · obtain ⟨time, action, n, tried, rest, acquired, rfl, tries, closes⟩ := holding_closes holds
      refine ⟨time, action, n, tried, rest ++ more, acquired, by simp, tries, closes.append ?_⟩
      obtain ⟨_, _, _, _, rfl, counts⟩ := Routine.Does.ask_cases handles
      obtain ⟨_, _, _, _, rfl, ends⟩ := Routine.Does.ask_cases counts
      obtain ⟨rfl, -⟩ := Routine.does_pure.1 ends
      simp [Idle]

/-- What put a visit's token is one of its tries, before all that it did otherwise. -/
theorem PutWithin.mem_tried {n : Nat} {entry : Entry} {tried rest first last : List Event}
    {acquired : Except Failure LockHandle} {g : Event} {ttl : Int}
    (put : PutWithin key n entry (tried ++ rest) g ttl first last)
    (tries : Tried key (tokenText n) o.ttl tried acquired) (closes : Closes key n acquired rest) :
    g ∈ tried ∧ ttl = o.ttl ∧ ∀ e ∈ rest, e ∈ last := by
  rcases split_append put.split with ⟨mid, rfl, rfl⟩ | ⟨mid, before, after⟩
  · have hg : g ∈ first ++ g :: mid := by simp
    refine ⟨hg, ?_, fun e he => List.mem_append_right _ he⟩
    have effect := put.stores.1
    have only := tries.only g hg
    rw [effect] at only
    cases only
    rfl
  · cases acquired with
    | error f => exact absurd put.stores.1 (closes g (by simp [after]) _)
    | ok handle =>
      obtain ⟨-, -, e, he, grant⟩ := tries.granted handle rfl
      exact absurd grant (put.pending e (by simp [before, he]) _)

/-- What put a token that is found has not run out. -/
theorem PutWithin.unexpired {n : Nat} {entry : Entry} {first last : List Event} {g : Event}
    {ttl now : Int} {st : Store} (put : PutWithin key n entry es g ttl first last)
    (found : st.get? now key = some entry) : now < g.time + ttl := by
  rw [Store.get?, Option.filter_eq_some_iff] at found
  have live := found.2
  rwa [Entry.isLive, put.expiry, Option.all_some, decide_eq_true_eq] at live

/-! ## When a visit is over -/

/-- A lock was granted as a token and lost at once: the monotonic clock could not be read for its
    handle, and so it was never released. -/
structure Stranded (key : String) (ttl : Int) (es : List Event) (n : Nat) : Prop where
  granted : ∃ g ∈ es, g.grant? key = some (tokenText n, ttl)
  unread : ∃ e ∈ es, e.effect = .monotonic ∧ ¬MonotonicReadable e.time
  unreleased : ∀ e ∈ es, e.release? key ≠ some (tokenText n)

theorem Tried.unreleased {token : String} {ttl : Int} {outcome : Except Failure LockHandle}
    (tries : Tried key token ttl es outcome) : ∀ e ∈ es, ∀ t, e.release? key ≠ some t := by
  intro e he t release
  have only := tries.only e he
  rw [Event.effect_of_release? release] at only
  cases only

theorem Idle.unreleased (idle : Idle es) : ∀ e ∈ es, ∀ t, e.release? key ≠ some t :=
  fun e he _ release => idle e he _ (Event.effect_of_release? release)

/-- Where a try was granted and the tries came to nothing all the same, the lock is stranded. -/
theorem Tried.stranded {ttl time : Int} {action : FaultAction} {n : Nat} {f : Failure}
    {tried rest : List Event} (tries : Tried key (tokenText n) ttl tried (.error f))
    (admits : ∀ e ∈ tried, ∃ v : World, v.Admits e) (idle : Idle rest) {g : Event} (hg : g ∈ tried)
    (grant : g.grant? key = some (tokenText n, ttl)) :
    Stranded key ttl (⟨time, task, .freshToken, action, n⟩ :: (tried ++ rest)) n := by
  rcases tries.failed f rfl with refused | ⟨time', task', action', reason, unread⟩
  · cases (refused g hg).symm.trans grant
  have mine : ∀ e ∈ tried, e ∈ ⟨time, task, .freshToken, action, n⟩ :: (tried ++ rest) :=
    fun e he => List.mem_cons_of_mem _ (List.mem_append_left _ he)
  refine ⟨⟨g, mine g hg, grant⟩, ⟨_, mine _ unread, rfl, fun readable => ?_⟩, ?_⟩
  · obtain ⟨v, admits⟩ := admits _ unread
    cases admits.reading_eq readable
  · refine List.forall_mem_cons.2 ⟨nofun, List.forall_mem_append.2 ⟨?_, ?_⟩⟩
    · exact fun e he => tries.unreleased e he _
    · exact fun e he => idle.unreleased e he _

/-- What is promised of the token that a task drew to visit a lock, when the visit is over. -/
structure Spent (key : String) (ttl : Int) (es : List Event) (n : Nat) (s : System) : Prop where
  /-- Unless a release of it did not take effect, the token is gone, or the lock is stranded. -/
  gone : (∀ r ∈ es, r.release? key = some (tokenText n) → r.action.performs) →
    ∀ entry, s.store.get? s.elapsed key = some entry → entry.value = tokenText n →
      Stranded key ttl es n
  /-- In any case it is gone when its time to live is over, from when it was granted. -/
  brief : ∀ entry, s.store.get? s.elapsed key = some entry → entry.value = tokenText n →
    ∃ g ∈ es, g.grant? key = some (tokenText n, ttl) ∧ s.elapsed < g.time + ttl
  /-- A release of it leaves a store as it is where the lock holds something else. -/
  spares : ∀ r ∈ es, r.release? key = some (tokenText n) → ∀ st : Store,
    (∀ entry, st.get? r.time key = some entry → entry.value ≠ tokenText n) → r.change st = st

section

variable {α : Type} {setting : Setting α} {processes : List (Int × Proc α)} {s : System}
  {h : List Event} {d : Schedule α} {i : Nat} {pre post : List Event}

/-- A token that a task drew for a lock, and that is found when the task is done with the lock, was
    put by one of its tries, before all that it did otherwise. -/
theorem FairRun.put_of_found (fair : FairRun key setting processes s h d) {time : Int}
    {action : FaultAction} {n : Nat} {tried rest : List Event}
    {acquired : Except Failure LockHandle}
    (split : h.filter (·.task = i)
      = pre ++ ⟨time, i, .freshToken, action, n⟩ :: (tried ++ rest) ++ post)
    (ceased : ∀ e ∈ post, ¬PutsToken key n e)
    (tries : Tried key (tokenText n) o.ttl tried acquired) (closes : Closes key n acquired rest)
    {entry : Entry} (found : d.system.store.get? d.system.elapsed key = some entry)
    (mine : entry.value = tokenText n) :
    ∃ g ∈ tried, ∃ first last, PutWithin key n entry (tried ++ rest) g o.ttl first last
      ∧ ∀ e ∈ rest, e ∈ last := by
  obtain ⟨stages, ledger⟩ := fair.exists_ledger
  obtain ⟨g, ttl, first, last, put⟩ := ledger.putWithin split rfl ceased found mine
  obtain ⟨hg, rfl, later⟩ := put.mem_tried tries closes
  exact ⟨g, hg, first, last, put, later⟩

/-- **When a visit to a lock is over, its token is spent.** Tasks that are fair about a lock run at
    any pace and in any order, whatever comes in the way of their commands, and one of them visits
    the lock, however that ends. No try for the lock took effect and failed all the same. Then the
    visit's token is gone if its releases took effect, unless there was none, as the monotonic clock
    could not be read when the lock was granted; in any case it is gone when its time to live is
    over; and no release of it deletes another token. -/
theorem token_after_visit (fair : FairRun key setting processes s h d) (visit : Visit key o i es)
    (split : h.filter (·.task = i) = pre ++ es ++ post)
    (ceased : ∀ e ∈ post, ∀ x ∈ es, ∀ n, x.draws? = some n → ¬PutsToken key n e)
    (told : ∀ e ∈ es, ∀ token ttl, e.effect = .command (.setIfAbsent key token ttl) →
      e.action.failsLate = false) :
    ∃ n, es.head?.bind Event.draws? = some n ∧ Spent key o.ttl es n d.system := by
  have admits := fair.run.exists_admits_of_split split
  obtain ⟨time, action, n, tried, rest, acquired, rfl, tries, closes⟩ := visit.closes
  have mine : ∀ e ∈ post, ¬PutsToken key n e := fun e he => ceased e he _ List.mem_cons_self n rfl
  -- What put the token was told of success.
  have grant : ∀ g ∈ tried, Stores key n o.ttl g → g.grant? key = some (tokenText n, o.ttl) := by
    intro g hg stores
    refine stores.2.resolve_right ?_
    rw [told g (by simp [hg]) _ _ stores.1]
    nofun
  refine ⟨n, rfl, ?_, ?_, ?_⟩
  · intro performed entry found same
    obtain ⟨g, hg, first, last, put, later⟩ := fair.put_of_found split mine tries closes found same
    cases acquired with
    | error f =>
      exact tries.stranded (fun e he => admits e (by simp [he])) closes hg (grant g hg put.stores)
    | ok handle =>
      obtain ⟨middle, r, tail, rfl, release, -⟩ := closes
      have idle := put.kept r (later r (by simp)) release
      have performs := performed r (by simp) release
      cases idle.symm.trans performs
  · intro entry found same
    obtain ⟨g, hg, first, last, put, -⟩ := fair.put_of_found split mine tries closes found same
    exact ⟨g, by simp [hg], grant g hg put.stores, put.unexpired found⟩
  · exact fun r _ release st other => change_eq_of_release release other

/-- **What is left of a failed acquisition.** Tasks that are fair about a lock run at any pace and in
    any order, whatever comes in the way of their commands, and one of them fails to acquire it. The
    token that it drew for that stands only where one of its tries took effect and was told of a
    failure, or was granted and the monotonic clock could not be read then, and only until its time
    to live is over, from when that try was made. -/
theorem token_after_failure (fair : FairRun key setting processes s h d) {f : Failure}
    (acquires : (acquire key o).Does i es (.error f))
    (split : h.filter (·.task = i) = pre ++ es ++ post)
    (ceased : ∀ e ∈ post, ∀ x ∈ es, ∀ n, x.draws? = some n → ¬PutsToken key n e) :
    ∃ n, es.head?.bind Event.draws? = some n
      ∧ ∀ entry, d.system.store.get? d.system.elapsed key = some entry →
        entry.value = tokenText n → ∃ g ∈ es,
          g.effect = .command (.setIfAbsent key (tokenText n) o.ttl)
          ∧ (g.action.failsLate ∨ Stranded key o.ttl es n)
          ∧ d.system.elapsed < g.time + o.ttl := by
  have admits := fair.run.exists_admits_of_split split
  obtain ⟨time, action, n, tried, rfl, tries⟩ := acquire_does acquires
  refine ⟨n, rfl, fun entry found mine => ?_⟩
  have idle : Idle [] := by simp [Idle]
  rw [← List.append_nil tried] at split admits ⊢
  obtain ⟨g, hg, first, last, put, -⟩ := fair.put_of_found split
    (fun e he => ceased e he _ List.mem_cons_self n rfl) tries (o := o) idle found mine
  refine ⟨g, by simp [hg], put.stores.1, ?_, put.unexpired found⟩
  rcases put.stores.2 with grant | failsLate
  · exact .inr (tries.stranded (fun e he => admits e (by simp [he])) idle hg grant)
  · exact .inl failsLate

end

/-! ## Runs in which commands fail -/

theorem exists_draws_of_head? {n : Nat} (h : es.head?.bind Event.draws? = some n) :
    ∃ x ∈ es, x.draws? = some n := by
  obtain ⟨x, head, draws⟩ := Option.bind_eq_some_iff.1 h
  exact ⟨x, List.mem_of_head? head, draws⟩

/-- How the lock of a pair is acquired in the runs below. -/
def options : LockOptions := ⟨5000, 3, 100⟩

/-- A limiter that acquires its locks so. -/
def solo : Instances := ⟨[{ lock := options }]⟩

/-- An attempt is recorded under a lock, and then the lock is held for something that fails, while
    an attempt of another pair is recorded, the record of which has the same key as the lock. -/
def visits : List (Int × Proc (Except Failure CallResult)) :=
  [(0, ((Call.record 0 "w" "s").routine solo).run),
    (0, (holding (lockKey "w" "s") options fun _ => throw (.raised .value "odd")).run),
    (0, ((Call.record 0 "lock:w" "s").routine solo).run)]

/-- The first recording is cancelled at the read of its record, and the other takes its turns between
    those of the task that holds the lock. -/
def bothFail : Option (List Event × Schedule (Except Failure CallResult)) :=
  (Schedule.start visits { faults := [{ kind := .get, action := .fail .cancelled "" false }] }).follow
    [(0, 0), (0, 5), (0, 10), (0, 15), (2, 16), (1, 20), (1, 25), (1, 30), (2, 35), (2, 40), (2, 45)]

theorem isSome_bothFail : bothFail.isSome := by decide +kernel

/-- Both visits fail while they hold the lock, and the tokens of both are gone. -/
theorem token_after_visit_of_bothFail :
    ∃ history final, bothFail = some (history, final)
      ∧ (∀ i < 2, (final.tasks[i]?.bind Task.result?).any fun outcome => !outcome.isOk)
      ∧ ∀ i < 2, ∃ n, (∃ x ∈ history, x.task = i ∧ x.draws? = some n)
        ∧ ∀ entry, final.system.store.get? final.system.elapsed (lockKey "w" "s") = some entry →
          entry.value ≠ tokenText n := by
  obtain ⟨⟨history, final⟩, follows⟩ := Option.isSome_iff_exists.1 isSome_bothFail
  have ends : ∀ i < 2, ((bothFail.bind (·.2.tasks[i]?)).bind Task.result?).any
      fun outcome => !outcome.isOk := by decide +kernel
  have events : ∀ e ∈ (bothFail.map (·.1)).getD [], MonotonicReadable e.time
      ∧ e.action.failsLate = false ∧ ((e.release? (lockKey "w" "s")).isSome → e.action.performs) := by
    decide +kernel
  rw [follows] at ends events
  have fair : FairRun (lockKey "w" "s") {} visits
      { faults := [{ kind := .get, action := .fail .cancelled "" false }] } history final := by
    refine ⟨nofun, fun i delay p hi => ?_, fun _ _ _ h => (nomatch h),
      Schedule.run_of_follow (fun _ _ => trivial) follows⟩
    have mem := List.mem_of_getElem? hi
    simp only [visits, List.mem_cons, List.not_mem_nil, or_false] at mem
    rcases mem with h | h | h
    · cases h
      exact Call.fairly_of_site rfl _ i none
    · cases h
      refine fairly_holding (fun handle => ?_) i none
      exact fun _ _ => trivial
    · cases h
      exact Call.fairly_of_site rfl _ i none
  have gone : ∀ i < 2, ∀ delay p, visits[i]? = some (delay, p) →
      (∀ es outcome, p.Does i es outcome → Visit (lockKey "w" "s") options i es) →
      ∃ n, (∃ x ∈ history, x.task = i ∧ x.draws? = some n)
        ∧ ∀ entry, final.system.store.get? final.system.elapsed (lockKey "w" "s") = some entry →
          entry.value ≠ tokenText n := by
    intro i lt delay p hi visit
    obtain ⟨a, ended⟩ := Task.exists_ended (Option.isSome_of_any (ends i lt))
    obtain ⟨first, es, mine, -, does⟩ := fair.run.does hi ended
    have mem : ∀ e ∈ es, e ∈ history ∧ e.task = i := by
      intro e he
      have own := List.mem_filter.1 (mine ▸ List.mem_cons_of_mem first he)
      exact ⟨own.1, of_decide_eq_true own.2⟩
    have split : history.filter (·.task = i) = [first] ++ es ++ [] := by simpa using mine
    obtain ⟨n, first_draws, spent⟩ := token_after_visit fair (visit es a does) split (by simp)
      fun e he _ _ _ => (events e (mem e he).1).2.1
    obtain ⟨x, hx, draws⟩ := exists_draws_of_head? first_draws
    refine ⟨n, ⟨x, (mem x hx).1, (mem x hx).2, draws⟩, fun entry found same => ?_⟩
    have performed : ∀ r ∈ es, r.release? (lockKey "w" "s") = some (tokenText n) →
        r.action.performs :=
      fun r hr release => (events r (mem r hr).1).2.2 (by simp [release])
    obtain ⟨e, he, -, unread⟩ := (spent.gone performed entry found same).unread
    exact unread (events e (mem e he).1).1
  refine ⟨history, final, follows, ends, fun i lt => ?_⟩
  match i, lt with
  | 0, lt =>
    refine gone 0 lt _ _ rfl fun es outcome does => ?_
    obtain ⟨_, records, -⟩ := Routine.Does.of_map does
    exact .recording rfl rfl records
  | 1, lt => exact gone 1 lt _ _ rfl fun es outcome does => .holding does

/-- A store that grants a lock after a time beyond the range of the monotonic clock. -/
def slowGrant : System where
  faults := [{ kind := .setIfAbsent, latency := 10 ^ 400 }]

/-- No release fails and no try, but a call that records an attempt fails open and leaves its token
    under the lock. -/
theorem token_stranded :
    let r := ((solo.limiter 0).recordFailure "w" "s").run.run 0 slowGrant
    (∀ f ∈ slowGrant.faults, f.kind ≠ .deleteIfEqual ∧ f.action.failsLate = false)
      ∧ r.2.toOption = some false ∧ r.1.metrics.outcomes = [("fail_open", 1)] ∧ r.1.tokens = 1
      ∧ r.1.elapsed = 10 ^ 400
      ∧ r.1.get? (lockKey "w" "s") = some ⟨tokenText 1, some (10 ^ 400 + 5000)⟩ := by
  decide +kernel

/-- A task tries for a lock once, and is told of a failure although the try took effect. -/
def lostReply : Option (List Event × Schedule (Except Failure LockHandle)) :=
  (Schedule.start [(0, (acquire "k" ⟨5000, 0, 100⟩).run)]
    { faults := [{ kind := .setIfAbsent, action := .fail .connection "lost" true }] }).follow
    [(0, 0), (0, 5)]

theorem isSome_lostReply : lostReply.isSome := by decide +kernel

/-- The token that is left is that of a try that took effect, whose time to live is not over. -/
theorem token_after_failure_of_lostReply :
    ∃ history final, lostReply = some (history, final) ∧ ∃ g ∈ history,
      g.effect = .command (.setIfAbsent "k" (tokenText 1) 5000) ∧ g.action.failsLate
        ∧ final.system.elapsed < g.time + 5000 := by
  obtain ⟨⟨history, final⟩, follows⟩ := Option.isSome_iff_exists.1 isSome_lostReply
  have ends : (lostReply.bind (·.2.tasks[0]?)).bind Task.result?
      = some (.error (.lockUnavailable "k" (some (.connection, "lost")))) := by decide +kernel
  have events : ∀ e ∈ (lostReply.map (·.1)).getD [], MonotonicReadable e.time
      ∧ e.draws?.getD 1 = 1 := by decide +kernel
  have stands : (lostReply.bind fun (_, final) => final.system.store.get? final.system.elapsed "k")
      = some ⟨tokenText 1, some 5005⟩ := by decide +kernel
  rw [follows] at ends events stands
  have fair : FairRun "k" {} [(0, (acquire "k" ⟨5000, 0, 100⟩).run)]
      { faults := [{ kind := .setIfAbsent, action := .fail .connection "lost" true }] }
      history final := by
    refine ⟨nofun, fun i delay p hi => ?_, fun _ _ _ h => (nomatch h),
      Schedule.run_of_follow (fun _ _ => trivial) follows⟩
    cases List.mem_singleton.1 (List.mem_of_getElem? hi)
    exact fairly_acquire "k" ⟨5000, 0, 100⟩ i none
  obtain ⟨a, ended⟩ := Task.exists_ended (Option.isSome_of_eq_some ends)
  obtain ⟨first, es, mine, -, does⟩ := fair.run.does (i := 0) rfl ended
  obtain rfl : a = .error (.lockUnavailable "k" (some (.connection, "lost"))) := by
    simpa [ended, Task.result?] using ends
  have mem : ∀ e ∈ es, e ∈ history := by
    intro e he
    exact (List.mem_filter.1 (mine ▸ List.mem_cons_of_mem first he)).1
  have split : history.filter (·.task = 0) = [first] ++ es ++ [] := by simpa using mine
  obtain ⟨n, first_draws, left⟩ := token_after_failure fair does split (by simp)
  obtain ⟨x, hx, draws⟩ := exists_draws_of_head? first_draws
  obtain rfl : n = 1 := by simpa [draws] using (events x (mem x hx)).2
  obtain ⟨g, hg, tries, late | stranded, running⟩ := left _ stands rfl
  · exact ⟨history, final, follows, g, mem g hg, tries, late, running⟩
  · obtain ⟨e, he, -, unread⟩ := stranded.unread
    exact absurd (events e (mem e he)).1 unread

/-- An acquisition that is told of a failure leaves its token under the key, and so does one that is
    granted the lock when the monotonic clock cannot be read. -/
theorem token_left_by_failure :
    let final := (lostReply.get isSome_lostReply).2
    let late := (acquire "k" ⟨5000, 0, 100⟩).run.run 0 { elapsed := 10 ^ 400 }
    (final.tasks[0]?.bind Task.result?
          = some (.error (.lockUnavailable "k" (some (.connection, "lost"))))
        ∧ final.system.tokens = 1
        ∧ final.system.store.get? final.system.elapsed "k" = some ⟨tokenText 1, some 5005⟩)
      ∧ late.2.toOption = none ∧ late.1.tokens = 1
        ∧ late.1.get? "k" = some ⟨tokenText 1, some (10 ^ 400 + 5000)⟩ := by
  decide +kernel

end Lock

end Turnstile

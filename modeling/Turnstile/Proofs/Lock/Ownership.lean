import Mathlib.Data.List.Induction
import Turnstile.Proofs.Run.History
import Turnstile.Proofs.Store.Replay

set_option autoImplicit false

/-! # What a history tells of a lock

A lock is granted when its entry is set and the task is told so. From then on the entry stands until
its time to live runs out or it is deleted as its own token (`Lock.deleted_or_stands`), whatever
other tokens it is released as meanwhile. So it is in a history in which every command about the key
is one of the lock's own (`Lock.Lawful`). -/

namespace Turnstile

namespace Event

/-- The token and the time to live as which the lock under a key is granted. -/
def grant? (key : String) : Event → Option (String × Int)
  | ⟨_, _, .command (.setIfAbsent k token ttl), _, .ok reply⟩ =>
    if k = key ∧ reply.truthy then some (token, ttl) else none
  | _ => none

/-- The token as which the lock under a key is released. -/
def release? (key : String) (e : Event) : Option String :=
  match e.effect with
  | .command (.deleteIfEqual k token) => if k = key then some token else none
  | _ => none

/-- The handle that is kept, where it is one of the lock under a key. -/
def kept? (key : String) (e : Event) : Option LockHandle :=
  match e.effect with
  | .operate (.keepHandle _ handle) => if handle.key = key then some handle else none
  | _ => none

/-- The handle that is found under a name. -/
def found? : Event → Option LockHandle
  | ⟨_, _, .handle _, _, answer⟩ => answer
  | _ => none

theorem eq_of_grant? {key token : String} {ttl : Int} {e : Event}
    (h : e.grant? key = some (token, ttl)) : ∃ reply : Json, reply.truthy
      ∧ e = ⟨e.time, e.task, .command (.setIfAbsent key token ttl), e.action, .ok reply⟩ := by
  unfold grant? at h
  split at h
  · split at h
    · next truthy =>
      cases h
      exact ⟨_, truthy.2, by rw [truthy.1]⟩
    · cases h
  · cases h

theorem effect_of_release? {key token : String} {e : Event} (h : e.release? key = some token) :
    e.effect = .command (.deleteIfEqual key token) := by
  unfold release? at h
  split at h
  · next same =>
    split at h
    · next k =>
      cases h
      rw [same, k]
    · cases h
  · cases h

theorem release?_of_effect {key token : String} {e : Event}
    (h : e.effect = .command (.deleteIfEqual key token)) : e.release? key = some token := by
  simp [release?, h]

theorem effect_of_kept? {key : String} {handle : LockHandle} {e : Event}
    (h : e.kept? key = some handle) :
    (∃ name, e.effect = .operate (.keepHandle name handle)) ∧ handle.key = key := by
  unfold kept? at h
  split at h
  · next name _ same =>
    split at h
    · next k =>
      cases h
      exact ⟨⟨name, same⟩, k⟩
    · cases h
  · cases h

end Event

namespace Lock

/-! ## Handles and tokens -/

/-- A handle was made by a task: the lock was granted to it as the handle's token, for its time to
    live, and the monotonic clock showed then what the handle says. -/
def Made (key : String) (h : List Event) (i : Nat) (handle : LockHandle) : Prop :=
  handle.key = key ∧ ∃ g ∈ h, g.task = i ∧ g.grant? key = some (handle.token, handle.ttl)
    ∧ clockSeconds g.time = .ok handle.acquiredAt

/-- A handle was found by a task under some name. -/
def Found (h : List Event) (i : Nat) (handle : LockHandle) : Prop :=
  ∃ x ∈ h, x.task = i ∧ x.found? = some handle

theorem Made.append {key : String} {h : List Event} {i : Nat} {handle : LockHandle}
    (made : Made key h i handle) (e : Event) : Made key (h ++ [e]) i handle := by
  obtain ⟨same, g, hg, rest⟩ := made
  exact ⟨same, g, List.mem_append_left _ hg, rest⟩

theorem Found.append {h : List Event} {i : Nat} {handle : LockHandle}
    (found : Found h i handle) (e : Event) : Found (h ++ [e]) i handle := by
  obtain ⟨x, hx, rest⟩ := found
  exact ⟨x, List.mem_append_left _ hx, rest⟩

/-! ## Lawful histories -/

/-- What a command about the key of a lock may be. -/
inductive IsOwn (key : String) : Command → Prop where
  | get : IsOwn key (.get key)
  | acquire (token : String) (ttl : Int) : IsOwn key (.setIfAbsent key token ttl)
  | release (token : String) : IsOwn key (.deleteIfEqual key token)

/-- What holds of an event in a history that starts with a store, given what was done before: it
    keeps to the lock's own commands; the lock is granted only where it is free, and as a token as
    which it was never granted; and handles of the lock, and tokens as which it is released, come
    from where they should. -/
structure Lawful (key : String) (s : Store) (before : List Event) (e : Event) : Prop where
  order : ∀ x ∈ before, x.time ≤ e.time
  command : ∀ c, e.effect = .command c → c.key? = some key → IsOwn key c
  granted : ∀ token ttl, e.grant? key = some (token, ttl) →
    (s.replay before).get? e.time key = none
      ∧ e.change (s.replay before) = (s.replay before).put key ⟨token, some (e.time + ttl)⟩
  fresh : ∀ token ttl, e.grant? key = some (token, ttl) →
    ∀ x ∈ before, ∀ ttl', x.grant? key ≠ some (token, ttl')
  kept : ∀ handle, e.kept? key = some handle → Made key before e.task handle
  released : ∀ token, e.release? key = some token →
    ∃ handle, handle.key = key ∧ handle.token = token
      ∧ (Made key before e.task handle ∨ Found before e.task handle)

/-! ## Releases -/

/-- A release of a token that is not there changes nothing. -/
theorem change_eq_of_release {key token : String} {e : Event}
    (release : e.release? key = some token) {s : Store}
    (other : ∀ entry, s.get? e.time key = some entry → entry.value ≠ token) : e.change s = s := by
  rw [Event.change, Event.effect_of_release? release]
  show (e.action.apply e.time s _).1 = s
  cases performs : e.action.performs with
  | false => rw [FaultAction.apply_of_not_performs performs]
  | true =>
    rw [FaultAction.apply_of_performs performs, Command.perform]
    cases found : s.get? e.time key with
    | none => rfl
    | some entry => simp [other entry found]

/-- A release deletes what is there as its token, or else does nothing at all. -/
theorem change_of_release {key token : String} {e : Event} (release : e.release? key = some token)
    {s : Store} {entry : Entry} (found : s.get? e.time key = some entry)
    (same : entry.value = token) : (∀ t, (e.change s).get? t key = none) ∨ e.change s = s := by
  rw [Event.change, Event.effect_of_release? release]
  show (∀ t, (e.action.apply e.time s _).1.get? t key = none) ∨ (e.action.apply e.time s _).1 = s
  cases performs : e.action.performs with
  | false => exact .inr (FaultAction.apply_of_not_performs performs _ _ _)
  | true =>
    left
    intro t
    rw [FaultAction.apply_of_performs performs]
    simp [Command.perform, found, same, Store.get?_erase]

/-! ## An entry stands -/

/-- What is done about a lock leaves the entry there that is live, but for a release as its token.
    -/
theorem get?_change_of_isOwn {key : String} {e : Event}
    (command : ∀ c, e.effect = .command c → c.key? = some key → IsOwn key c) {s : Store}
    {entry : Entry} (found : s.get? e.time key = some entry)
    (other : e.release? key ≠ some entry.value) (t : Int) :
    (e.change s).get? t key = s.get? t key := by
  by_cases about : ∃ c, e.effect = .command c ∧ c.key? = some key
  · obtain ⟨c, effect, same⟩ := about
    rw [Event.change, effect]
    show (e.action.apply e.time s c).1.get? t key = _
    cases performs : e.action.performs with
    | false => rw [FaultAction.apply_of_not_performs performs]
    | true =>
      rw [FaultAction.apply_of_performs performs]
      cases command c effect same with
      | get => rw [Command.perform_get]
      | acquire token ttl =>
        by_cases positive : ttl ≤ 0
        · simp [Command.perform, positive]
        · simp [Command.perform, positive, found]
      | release token =>
        have differ : entry.value ≠ token := by
          rintro rfl
          exact other (Event.release?_of_effect effect)
        simp [Command.perform, found, differ]
  · exact Event.get?_change_of_ne (fun c effect same => about ⟨c, effect, same⟩) s t

/-- A release among later events deleted an entry. -/
def Deleted (key : String) (s : Store) (before : List Event) (entry : Entry) (later : List Event) :
    Prop :=
  ∃ mid r rest, later = mid ++ r :: rest ∧ r.release? key = some entry.value
    ∧ (s.replay (before ++ mid)).get? r.time key = some entry
    ∧ ∀ t, (s.replay (before ++ mid ++ [r])).get? t key = none

theorem Deleted.append {key : String} {s : Store} {before later : List Event} {entry : Entry}
    (deleted : Deleted key s before entry later) (k : List Event) :
    Deleted key s before entry (later ++ k) := by
  obtain ⟨mid, r, rest, rfl, found⟩ := deleted
  exact ⟨mid, r, rest ++ k, by simp, found⟩

/-- **A granted lock stands.** After a lock was granted, either a release as its token has deleted
    its entry, or the entry is there for as long as its time to live has not run out. -/
theorem deleted_or_stands {key token : String} {ttl : Int} {s : Store} {before later : List Event}
    {g : Event} (each : Each (Lawful key s) (before ++ g :: later))
    (grant : g.grant? key = some (token, ttl)) :
    Deleted key s (before ++ [g]) ⟨token, some (g.time + ttl)⟩ later
      ∨ ∀ t, (∀ x ∈ later, x.time ≤ t) → t < g.time + ttl →
        (s.replay (before ++ g :: later)).get? t key = some ⟨token, some (g.time + ttl)⟩ := by
  induction later using List.reverseRecOn with
  | nil =>
    right
    intro t _ unexpired
    rw [Store.replay_snoc, ((each before g [] rfl).granted token ttl grant).2, Store.get?_put,
      if_pos rfl, Option.filter_some, if_pos]
    simpa [Entry.isLive] using unexpired
  | append_singleton later e ih =>
    have shape : before ++ g :: (later ++ [e]) = (before ++ g :: later) ++ [e] := by simp
    rw [shape] at each
    have lawful : Lawful key s (before ++ g :: later) e := each _ e [] rfl
    rcases ih each.left with deleted | stands
    · exact .inl (deleted.append [e])
    · by_cases unexpired : e.time < g.time + ttl
      · have found := stands e.time (fun x hx => lawful.order x (by simp [hx])) unexpired
        rw [shape, Store.replay_snoc]
        by_cases mine : e.release? key = some token
        · rcases change_of_release mine found rfl with gone | idle
          · refine .inl ⟨later, e, [], rfl, mine, ?_, ?_⟩
            · simpa using found
            · intro t
              rw [show before ++ [g] ++ later ++ [e] = (before ++ g :: later) ++ [e] by simp,
                Store.replay_snoc]
              exact gone t
          · right
            intro t order unexpired
            rw [idle]
            exact stands t (fun x hx => order x (by simp [hx])) unexpired
        · right
          intro t order unexpired
          rw [get?_change_of_isOwn lawful.command found mine]
          exact stands t (fun x hx => order x (by simp [hx])) unexpired
      · -- From here on there is no instant at which the entry would have to be there.
        right
        intro t order early
        have := order e (by simp)
        omega

/-! ## Ownership -/

/-- What is promised of the lock under a key, in a history that starts with a store. -/
structure Owned (key : String) (s : Store) (h : List Event) : Prop where
  /-- No two grants are as the same token. -/
  apart : ∀ before g mid g' after token ttl token' ttl', h = before ++ g :: (mid ++ g' :: after) →
    g.grant? key = some (token, ttl) → g'.grant? key = some (token', ttl') → token ≠ token'
  /-- When a lock is granted after another, that one has run out, or was deleted as its token. -/
  exclusive : ∀ before g mid g' after token ttl token' ttl',
    h = before ++ g :: (mid ++ g' :: after) → g.grant? key = some (token, ttl) →
    g'.grant? key = some (token', ttl') → g.time + ttl ≤ g'.time
      ∨ Deleted key s (before ++ [g]) ⟨token, some (g.time + ttl)⟩ mid
  /-- A release leaves what is not there as its token. -/
  released : ∀ before r after token, h = before ++ r :: after → r.release? key = some token →
    (∀ entry, (s.replay before).get? r.time key = some entry → entry.value ≠ token) →
    ∀ t, (s.replay (before ++ [r])).get? t key = (s.replay before).get? t key
  /-- A lock that is granted and not released as its token is there until it runs out. -/
  stands : ∀ before g mid after token ttl, h = before ++ g :: (mid ++ after) →
    g.grant? key = some (token, ttl) → (∀ x ∈ mid, x.release? key ≠ some token) →
    ∀ t, (∀ x ∈ mid, x.time ≤ t) → t < g.time + ttl →
      (s.replay (before ++ g :: mid)).get? t key = some ⟨token, some (g.time + ttl)⟩
  /-- A handle that is kept was made by its task. -/
  handles : ∀ before x after handle, h = before ++ x :: after → x.kept? key = some handle →
    Made key before x.task handle
  /-- A token as which the lock is released is that of a handle which the task made or found. -/
  tokens : ∀ before r after token, h = before ++ r :: after → r.release? key = some token →
    ∃ handle, handle.key = key ∧ handle.token = token
      ∧ (Made key before r.task handle ∨ Found before r.task handle)

/-- **A lawful history keeps what is promised of its lock.** -/
theorem Owned.of_lawful {key : String} {s : Store} {h : List Event}
    (each : Each (Lawful key s) h) : Owned key s h where
  apart := by
    rintro before g mid g' after token ttl _ ttl' split grant grant' rfl
    have lawful := each (before ++ g :: mid) g' after (by simp [split])
    exact lawful.fresh token ttl' grant' g (by simp) ttl grant
  exclusive := by
    intro before g mid g' after token ttl token' ttl' split grant grant'
    have lawful := each (before ++ g :: mid) g' after (by simp [split])
    by_cases early : g'.time < g.time + ttl
    · right
      have upTo : Each (Lawful key s) (before ++ g :: mid) :=
        Each.left (k := g' :: after) (by simpa [split] using each)
      rcases deleted_or_stands upTo grant with deleted | stands
      · exact deleted
      · have here := stands g'.time (fun x hx => lawful.order x (by simp [hx])) early
        rw [(lawful.granted token' ttl' grant').1] at here
        cases here
    · left
      omega
  released := by
    intro before r after token split release other t
    rw [Store.replay_snoc, change_eq_of_release release other]
  stands := by
    intro before g mid after token ttl split grant unreleased t order early
    have upTo : Each (Lawful key s) (before ++ g :: mid) :=
      Each.left (k := after) (by simpa [split] using each)
    rcases deleted_or_stands upTo grant with ⟨_, r, _, rfl, release, -⟩ | stands
    · exact absurd release (unreleased r (by simp))
    · exact stands t order early
  handles before x after handle split kept := (each before x after split).kept handle kept
  tokens before r after token split release := (each before r after split).released token release

end Lock

end Turnstile

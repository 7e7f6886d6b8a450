import Mathlib.Data.List.Nodup
import Turnstile.Proofs.Limiter.Deeds
import Turnstile.Proofs.Limiter.Exclusion

set_option autoImplicit false

/-! # Where timestamps come from

Commands may be delayed and may fail before or after their effect; none is answered in the store's
place. Then a record that is found was put there by the last write that took effect
(`Written`), and each of its timestamps was recorded by a write of another task. -/

namespace Turnstile

/-! ## Writes that took effect -/

/-- The text that an event put under a key, and for how many seconds. -/
def Event.put? (key : String) (e : Event) : Option (String × Int) :=
  match e.effect with
  | .command (.set k text ttl) =>
    if k = key ∧ 0 < ttl ∧ e.action.performs then some (text, ttl) else none
  | _ => none

/-- A task put a record under a key to which it had added a timestamp. -/
def Recorded (key : String) (h : List Event) (task : Nat) (stamp : Int) : Prop :=
  ∃ e ∈ h, e.task = task ∧ ∃ earlier ttl,
    e.put? key = some ((Window.record (earlier ++ [stamp])).write .stored, ttl)

/-- The last write under a key that took effect did so at `time`, for `ttl` seconds. -/
def LastPut (key : String) (h : List Event) (time ttl : Int) : Prop :=
  ∃ before e after text, h = before ++ e :: after ∧ e.time = time ∧ e.put? key = some (text, ttl)
    ∧ ∀ x ∈ after, x.put? key = none

/-- Tasks with their timestamps: no task twice, and each recorded its own. -/
structure Recorders (key : String) (h : List Event) (pairs : List (Nat × Int)) : Prop where
  nodup : (pairs.map (·.1)).Nodup
  recorded : ∀ w ∈ pairs, Recorded key h w.1 w.2

/-- An entry is a record of timestamps that different tasks recorded, and was put there by the last
    write that took effect. -/
def Written (key : String) (h : List Event) (e : Entry) : Prop :=
  (∃ pairs, Recorders key h pairs ∧ (Window.record (pairs.map (·.2))).integersFit
      ∧ e.value = (Window.record (pairs.map (·.2))).write .stored)
    ∧ ∃ time ttl, LastPut key h time ttl ∧ e.expiry = some (time + ttl * 1000)

theorem Recorded.append {key : String} {h : List Event} {task : Nat} {stamp : Int}
    (r : Recorded key h task stamp) (k : List Event) : Recorded key (h ++ k) task stamp := by
  obtain ⟨e, he, rest⟩ := r
  exact ⟨e, by simp [he], rest⟩

theorem Recorders.append {key : String} {h : List Event} {pairs : List (Nat × Int)}
    (r : Recorders key h pairs) (k : List Event) : Recorders key (h ++ k) pairs :=
  ⟨r.nodup, fun w hw => (r.recorded w hw).append k⟩

theorem LastPut.append {key : String} {h : List Event} {time ttl : Int}
    (last : LastPut key h time ttl) {e : Event} (put : e.put? key = none) :
    LastPut key (h ++ [e]) time ttl := by
  obtain ⟨before, x, after, text, rfl, htime, hput, none⟩ := last
  refine ⟨before, x, after ++ [e], text, by simp, htime, hput, ?_⟩
  intro y hy
  rcases List.mem_append.1 hy with hy | hy
  · exact none y hy
  · rw [List.mem_singleton.1 hy]
    exact put

theorem LastPut.last {key : String} (h : List Event) {e : Event} {text : String} {ttl : Int}
    (put : e.put? key = some (text, ttl)) : LastPut key (h ++ [e]) e.time ttl :=
  ⟨h, e, [], text, rfl, rfl, put, by simp⟩

theorem Written.append {key : String} {h : List Event} {entry : Entry} (w : Written key h entry)
    {e : Event} (put : e.put? key = none) : Written key (h ++ [e]) entry := by
  obtain ⟨⟨pairs, recorders, fit, value⟩, time, ttl, last, expiry⟩ := w
  exact ⟨⟨pairs, recorders.append [e], fit, value⟩, time, ttl, last.append put, expiry⟩

/-! ## What an event makes of an entry -/

/-- The command of an event is none about a lock under the key. -/
def Event.NoLock (key : String) (e : Event) : Prop :=
  ∀ k value, k = key → (∀ ttl, e.effect ≠ .command (.setIfAbsent k value ttl))
    ∧ e.effect ≠ .command (.deleteIfEqual k value)

/-- After a write that takes effect the entry under its key is what it put. -/
theorem World.get?_add_of_put {v : World} {e : Event} {key text : String} {ttl : Int}
    (put : e.put? key = some (text, ttl)) :
    (v.add e).store.get? v.now key = some ⟨text, some (v.now + ttl * 1000)⟩ := by
  obtain ⟨time, task, effect, action, answer⟩ := e
  cases effect with
  | command c =>
    cases c with
    | set k value seconds =>
      simp only [Event.put?] at put
      split at put
      · next h =>
        obtain ⟨rfl, positive, performs⟩ := h
        simp only [Option.some.injEq, Prod.mk.injEq] at put
        obtain ⟨rfl, rfl⟩ := put
        have live : v.now < v.now + seconds * 1000 := by omega
        show (action.apply v.now v.store _).1.get? v.now k = _
        rw [FaultAction.apply_of_performs performs]
        simp [Command.perform, Int.not_le.2 positive, Store.get?_put, Entry.isLive, live]
      · cases put
    | _ => simp [Event.put?] at put
  | _ => simp [Event.put?] at put

/-- An entry that is found after any other event was found before. -/
theorem World.get?_of_add {v : World} {e : Event} {key : String} (put : e.put? key = none)
    (lock : e.NoLock key) {t : Int} {entry : Entry}
    (found : (v.add e).store.get? t key = some entry) : v.store.get? t key = some entry := by
  obtain ⟨time, task, effect, action, answer⟩ := e
  cases effect with
  | command c =>
    have found' : (action.apply v.now v.store c).1.get? t key = some entry := found
    cases performs : action.performs with
    | false => rwa [FaultAction.apply_of_not_performs performs] at found'
    | true =>
      rw [FaultAction.apply_of_performs performs] at found'
      by_cases hk : c.key? = some key
      · cases c with
        | get k =>
          rw [Command.perform] at found'
          split at found' <;> exact found'
        | set k value seconds =>
          obtain rfl : k = key := by simpa [Command.key?] using hk
          rw [Command.perform] at found'
          split at found'
          · exact found'
          · next positive => simp [Event.put?, performs, positive] at put
        | setIfAbsent k value ttl =>
          obtain rfl : k = key := by simpa [Command.key?] using hk
          exact absurd rfl ((lock k value rfl).1 ttl)
        | delete k =>
          obtain rfl : k = key := by simpa [Command.key?] using hk
          rw [Command.perform] at found'
          split at found'
          · simp [Store.get?_erase] at found'
          · exact found'
        | deleteIfEqual k value =>
          obtain rfl : k = key := by simpa [Command.key?] using hk
          exact absurd rfl (lock k value rfl).2
        | ping | close => exact found'
      · rwa [Command.get?_perform_of_ne v.now t v.store c key hk] at found'
  | _ => exact found

end Turnstile

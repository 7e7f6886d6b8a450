import Turnstile.Store.Fault

set_option autoImplicit false

/-! # Commands and the store

What is found at one instant and another, what a command leaves alone, and what is told of a command
that meets a fault. -/

namespace Turnstile

/-! ## Other instants -/

/-- An entry that is live is still there at a later instant at which it is live. -/
theorem Store.get?_later {s : Store} {now t : Int} {k : String} {e : Entry}
    (h : s.get? now k = some e) (live : e.isLive t) : s.get? t k = some e := by
  rw [get?, Option.filter_eq_some_iff] at h ⊢
  exact ⟨h.1, live⟩

/-- What was live is found at any earlier instant. -/
theorem Store.get?_earlier {s : Store} {now t : Int} (later : now ≤ t) {k : String} {e : Entry}
    (h : s.get? t k = some e) : s.get? now k = some e := by
  rw [get?, Option.filter_eq_some_iff] at h ⊢
  refine ⟨h.1, ?_⟩
  have live := h.2
  cases he : e.expiry with
  | none => simp [Entry.isLive, he]
  | some expiry =>
    simp only [Entry.isLive, he, Option.all_some, decide_eq_true_eq] at live ⊢
    omega

/-- What is absent stays so, as long as nothing is put there. -/
theorem Store.get?_eq_none_later {s : Store} {now t : Int} (later : now ≤ t) {k : String}
    (h : s.get? now k = none) : s.get? t k = none := by
  cases found : s.get? t k with
  | none => rfl
  | some e =>
    rw [get?_earlier later found] at h
    cases h

/-- What two stores both have under a key stays the same for both, as long as nothing is put there.
    -/
theorem Store.get?_congr_later {s s' : Store} {now t : Int} (later : now ≤ t) {k : String}
    (same : s.get? now k = s'.get? now k) : s.get? t k = s'.get? t k := by
  cases found : s.get? t k with
  | none =>
    cases found' : s'.get? t k with
    | none => rfl
    | some e =>
      have live : e.isLive t := by
        rw [get?, Option.filter_eq_some_iff] at found'
        exact found'.2
      have there : s.get? t k = some e := get?_later (same.trans (get?_earlier later found')) live
      exact found.symm.trans there
  | some e =>
    have live : e.isLive t := by
      rw [get?, Option.filter_eq_some_iff] at found
      exact found.2
    exact (get?_later (same.symm.trans (get?_earlier later found)) live).symm

/-! ## Commands -/

/-- A command fails by itself only when it is to store for no time at all. -/
theorem Command.eq_invalidExpiry {now : Int} {s s' : Store} {c : Command} {f : Failure}
    (h : c.perform now s = (s', .error f)) : f = invalidExpiry := by
  cases c with
  | set key value ttl =>
    simp only [perform] at h
    split at h
    · cases h
      rfl
    · simp at h
  | setIfAbsent key value ttl =>
    simp only [perform] at h
    split at h
    · cases h
      rfl
    · split at h <;> simp at h
  | deleteIfEqual key value =>
    simp only [perform] at h
    split at h
    · split at h <;> simp at h
    · simp at h
  | get key | delete key =>
    simp only [perform] at h
    split at h <;> simp at h
  | ping | close => simp [perform] at h

/-- A read leaves the store as it is. -/
theorem Command.perform_get (now : Int) (s : Store) (key : String) :
    (Command.perform now s (.get key)).1 = s := by
  rw [perform]
  split <;> rfl

/-- A write of an absent entry takes place, or else is refused and leaves the store as it is. -/
theorem Command.setIfAbsent_cases (now : Int) (s : Store) (key value : String) (ttl : Int) :
    (0 < ttl ∧ s.get? now key = none ∧ perform now s (.setIfAbsent key value ttl)
        = (s.put key ⟨value, some (now + ttl)⟩, .ok (.bool true)))
      ∨ perform now s (.setIfAbsent key value ttl) = (s, .error invalidExpiry)
      ∨ perform now s (.setIfAbsent key value ttl) = (s, .ok .null) := by
  by_cases positive : ttl ≤ 0
  · exact .inr (.inl (by simp [perform, positive]))
  · cases found : s.get? now key with
    | some entry => exact .inr (.inr (by simp [perform, positive, found]))
    | none => exact .inl ⟨by omega, rfl, by simp [perform, positive, found]⟩

/-- What is found after a command was found before it, or was put there by it. -/
theorem Command.get?_perform_cases {now : Int} {s : Store} {c : Command} {k : String}
    {entry : Entry} (found : (c.perform now s).1.get? now k = some entry) :
    s.get? now k = some entry
      ∨ (∃ ttl, c = .set k entry.value ttl)
      ∨ ∃ ttl, c = .setIfAbsent k entry.value ttl ∧ entry.expiry = some (now + ttl)
        ∧ (c.perform now s).2 = .ok (.bool true) := by
  by_cases about : c.key? = some k
  · cases c with
    | get key =>
      rw [perform_get] at found
      exact .inl found
    | set key value ttl =>
      obtain rfl : key = k := Option.some.inj about
      by_cases positive : ttl ≤ 0
      · simp only [perform, positive, if_true] at found
        exact .inl found
      · simp only [perform, positive, if_false, Store.get?_put, if_true,
          Option.filter_eq_some_iff, Option.some.injEq] at found
        obtain ⟨rfl, -⟩ := found
        exact .inr (.inl ⟨ttl, rfl⟩)
    | setIfAbsent key value ttl =>
      obtain rfl : key = k := Option.some.inj about
      rcases setIfAbsent_cases now s key value ttl with ⟨-, -, put⟩ | refused | refused
      · rw [put, Store.get?_put, if_pos rfl, Option.filter_eq_some_iff, Option.some.injEq] at found
        obtain ⟨rfl, -⟩ := found
        exact .inr (.inr ⟨ttl, rfl, rfl, by rw [put]⟩)
      · rw [refused] at found
        exact .inl found
      · rw [refused] at found
        exact .inl found
    | delete key =>
      obtain rfl : key = k := Option.some.inj about
      simp only [perform] at found
      split at found
      · simp [Store.get?_erase] at found
      · exact .inl found
    | deleteIfEqual key value =>
      obtain rfl : key = k := Option.some.inj about
      simp only [perform] at found
      split at found
      · split at found
        · simp [Store.get?_erase] at found
        · exact .inl found
      · exact .inl found
    | ping | close => cases about
  · rw [get?_perform_of_ne now now s c k about] at found
    exact .inl found

/-- What is found after a release does not hold the token that was released. -/
theorem Command.value_ne_of_deleteIfEqual {now : Int} {s : Store} {k value : String} {entry : Entry}
    (found : (perform now s (.deleteIfEqual k value)).1.get? now k = some entry) :
    entry.value ≠ value := by
  simp only [perform] at found
  split at found
  · next e here =>
    split at found
    · simp [Store.get?_erase] at found
    · next other =>
      cases here.symm.trans found
      exact other
  · next none =>
    rw [none] at found
    cases found

/-! ## Commands on two stores -/

/-- A command is told the same of two stores that have the same under the key that it is about. -/
theorem Command.reply_perform_congr {now : Int} {s s' : Store} {c : Command}
    (same : ∀ k, c.key? = some k → s.get? now k = s'.get? now k) :
    (c.perform now s).2 = (c.perform now s').2 := by
  cases c with
  | get k | delete k =>
    have same := same k rfl
    simp only [perform, same]
    split <;> rfl
  | set k value ttl =>
    simp only [perform]
    split <;> rfl
  | setIfAbsent k value ttl =>
    have same := same k rfl
    simp only [perform, same]
    split
    · rfl
    · split <;> rfl
  | deleteIfEqual k value =>
    have same := same k rfl
    simp only [perform, same]
    split
    · split <;> rfl
    · rfl
  | ping | close => rfl

/-- What two stores both have under a key at an instant is the same for both after a command, where
    they had the same under it when the command was performed. -/
theorem Command.get?_perform_congr {now t : Int} {s s' : Store} {key : String}
    (same : s.get? now key = s'.get? now key) (agree : s.get? t key = s'.get? t key) (c : Command) :
    (c.perform now s).1.get? t key = (c.perform now s').1.get? t key := by
  by_cases about : c.key? = some key
  · cases c with
    | get k =>
      rw [perform_get, perform_get]
      exact agree
    | set k value ttl =>
      by_cases positive : ttl ≤ 0
      · simpa [perform, positive] using agree
      · simp [perform, positive, Store.get?_put, agree]
    | setIfAbsent k value ttl =>
      cases about
      by_cases positive : ttl ≤ 0
      · simpa [perform, positive] using agree
      · simp only [perform, positive, if_false, same]
        split
        · exact agree
        · simp [Store.get?_put]
    | delete k =>
      cases about
      simp only [perform, same]
      split
      · simp [Store.get?_erase]
      · exact agree
    | deleteIfEqual k value =>
      cases about
      simp only [perform, same]
      split
      · split
        · simp [Store.get?_erase]
        · exact agree
      · exact agree
    | ping | close => cases about
  · rw [get?_perform_of_ne now t s c key about, get?_perform_of_ne now t s' c key about]
    exact agree

/-! ## Commands that meet a fault -/

/-- Whatever comes in its way, a command leaves the entries under other keys as they are. -/
theorem FaultAction.get?_apply_of_ne (action : FaultAction) (now later : Int) (s : Store)
    (c : Command) (k : String) (h : c.key? ≠ some k) :
    (action.apply now s c).1.get? later k = s.get? later k := by
  have hc := Command.get?_perform_of_ne now later s c k h
  fun_cases FaultAction.apply action now s c with
  | case1 => exact hc
  | case2 => rfl
  | case3 cls message s' f hp =>
    rw [hp] at hc
    exact hc
  | case4 cls message s' reply hp =>
    rw [hp] at hc
    exact hc
  | case5 => rfl

/-- The command takes effect, whatever its issuer is told. -/
def FaultAction.performs : FaultAction → Bool
  | .perform => true
  | .fail _ _ afterEffect => afterEffect
  | .reply _ => false

/-- The command takes effect, and its issuer is told that it failed. -/
def FaultAction.failsLate : FaultAction → Bool
  | .fail _ _ afterEffect => afterEffect
  | _ => false

/-- Nothing is answered in the store's place. -/
def FaultAction.Honest (action : FaultAction) : Prop := ∀ value, action ≠ .reply value

/-- An action that performs a command changes the store as the command does. -/
theorem FaultAction.apply_of_performs {action : FaultAction} (h : action.performs) (now : Int)
    (s : Store) (c : Command) : (action.apply now s c).1 = (c.perform now s).1 := by
  fun_cases apply action now s c with
  | case1 => rfl
  | case2 => cases h
  | case3 cls message s' f hp => rw [hp]
  | case4 cls message s' reply hp => rw [hp]
  | case5 => cases h

/-- An action that does not perform a command changes nothing. -/
theorem FaultAction.apply_of_not_performs {action : FaultAction} (h : action.performs = false)
    (now : Int) (s : Store) (c : Command) : (action.apply now s c).1 = s := by
  fun_cases apply action now s c with
  | case1 => cases h
  | case2 => rfl
  | case3 => cases h
  | case4 => cases h
  | case5 => rfl

/-- Whatever comes in its way, a command is told the same of two stores that have the same under the
    key that it is about. -/
theorem FaultAction.reply_apply_congr (action : FaultAction) {now : Int} {s s' : Store}
    {c : Command} (same : ∀ k, c.key? = some k → s.get? now k = s'.get? now k) :
    (action.apply now s c).2 = (action.apply now s' c).2 := by
  have reply := Command.reply_perform_congr same
  cases action with
  | perform => exact reply
  | fail cls message afterEffect =>
    cases afterEffect with
    | false => rfl
    | true =>
      simp only [apply]
      generalize c.perform now s = done at reply
      generalize c.perform now s' = done' at reply
      obtain ⟨store, result⟩ := done
      obtain ⟨store', result'⟩ := done'
      cases reply
      cases result <;> rfl
  | reply value => rfl

/-- Whatever comes in its way, a command makes the same of what two stores have under a key. -/
theorem FaultAction.get?_apply_congr (action : FaultAction) {now t : Int} {s s' : Store}
    {key : String} (same : s.get? now key = s'.get? now key)
    (agree : s.get? t key = s'.get? t key) (c : Command) :
    (action.apply now s c).1.get? t key = (action.apply now s' c).1.get? t key := by
  cases performs : action.performs with
  | true =>
    rw [apply_of_performs performs, apply_of_performs performs]
    exact Command.get?_perform_congr same agree c
  | false =>
    rw [apply_of_not_performs performs, apply_of_not_performs performs]
    exact agree

/-- What an honest answer to a read tells: the reply of the store, or a raised failure. -/
theorem FaultAction.get_answer {action : FaultAction} (honest : action.Honest) (now : Int)
    (s : Store) (key : String) :
    (action.apply now s (.get key)).2 = (Command.perform now s (.get key)).2
      ∨ ∃ cls message, (action.apply now s (.get key)).2 = .error (.raised cls message) := by
  fun_cases apply action now s (.get key) with
  | case1 => exact .inl rfl
  | case2 cls message => exact .inr ⟨cls, message, rfl⟩
  | case3 cls message s' f hp =>
    simp only [Command.perform] at hp
    split at hp <;> simp at hp
  | case4 cls message => exact .inr ⟨cls, message, rfl⟩
  | case5 value => exact absurd rfl (honest value)

/-- When answers are honest, an entry that is said to be set where there was none is set. -/
theorem FaultAction.setIfAbsent_answer {action : FaultAction} (honest : action.Honest) {now : Int}
    {s : Store} {key value : String} {ttl : Int} {reply : Json} (truthy : reply.truthy)
    (h : (action.apply now s (.setIfAbsent key value ttl)).2 = .ok reply) :
    action = .perform ∧ 0 < ttl ∧ s.get? now key = none := by
  fun_cases apply action now s (.setIfAbsent key value ttl) with
  | case1 =>
    rcases Command.setIfAbsent_cases now s key value ttl with ⟨positive, free, -⟩ | hp | hp
    · exact ⟨rfl, positive, free⟩
    · simp [apply, hp] at h
    · simp only [apply, hp, Except.ok.injEq] at h
      rw [← h] at truthy
      cases truthy
  | case2 => cases h
  | case3 cls message s' f hp => simp [apply, hp] at h
  | case4 cls message s' reply hp => simp [apply, hp] at h
  | case5 value => exact absurd rfl (honest value)

/-- What a command that fails tells: a failure with a class. -/
theorem FaultAction.error_answer {action : FaultAction} {now : Int} {s : Store} {c : Command}
    {f : Failure} (h : (action.apply now s c).2 = .error f) :
    ∃ cls message, f = .raised cls message := by
  fun_cases apply action now s c with
  | case1 => exact ⟨_, _, Command.eq_invalidExpiry (Prod.ext rfl h)⟩
  | case2 cls message => exact ⟨cls, message, by simpa [apply] using h.symm⟩
  | case3 cls message s' g hp =>
    simp only [apply, hp, Except.error.injEq] at h
    exact ⟨_, _, Command.eq_invalidExpiry (h ▸ hp)⟩
  | case4 cls message s' reply hp =>
    simp only [apply, hp, Except.error.injEq] at h
    exact ⟨cls, message, h.symm⟩
  | case5 value => cases h

/-- A fault of an ordinary class: it does not end the whole task. -/
def FaultAction.Ordinary (action : FaultAction) : Prop :=
  ∀ message afterEffect, action ≠ .fail .cancelled message afterEffect

theorem FaultAction.Ordinary.isCancellation {action : FaultAction} (ordinary : action.Ordinary)
    {now : Int} {s : Store} {c : Command} {f : Failure}
    (h : (action.apply now s c).2 = .error f) : f.isCancellation = false := by
  fun_cases apply action now s c with
  | case1 =>
    rw [Command.eq_invalidExpiry (Prod.ext rfl h)]
    rfl
  | case2 cls message =>
    cases h
    simpa [Failure.isCancellation] using fun same => ordinary message false (by rw [same])
  | case3 cls message s' g hp =>
    simp only [apply, hp, Except.error.injEq] at h
    rw [← h, Command.eq_invalidExpiry hp]
    rfl
  | case4 cls message s' reply hp =>
    simp only [apply, hp, Except.error.injEq] at h
    rw [← h]
    simpa [Failure.isCancellation] using fun same => ordinary message true (by rw [same])
  | case5 value => cases h

/-- A fault that a store in trouble may cause: it delays a command, or makes it fail, before or
    after its effect, in one of the store's own classes. -/
def FaultAction.StoreOnly : FaultAction → Prop
  | .perform => True
  | .fail cls _ _ => cls.isStoreError = true
  | .reply _ => False

theorem FaultAction.StoreOnly.ordinary {action : FaultAction} (store : action.StoreOnly) :
    action.Ordinary := by
  rintro message afterEffect rfl
  cases store

/-- What a command that meets such a fault fails with is the store's own. -/
theorem FaultAction.StoreOnly.isStoreError {action : FaultAction} (store : action.StoreOnly)
    {now : Int} {s : Store} {c : Command} {f : Failure}
    (h : (action.apply now s c).2 = .error f) : f.isStoreError = true := by
  fun_cases apply action now s c with
  | case1 =>
    rw [Command.eq_invalidExpiry (Prod.ext rfl h)]
    rfl
  | case2 cls message =>
    cases h
    exact store
  | case3 cls message s' g hp =>
    simp only [apply, hp, Except.error.injEq] at h
    rw [← h, Command.eq_invalidExpiry hp]
    rfl
  | case4 cls message s' reply hp =>
    simp only [apply, hp, Except.error.injEq] at h
    rw [← h]
    exact store
  | case5 value => exact store.elim

end Turnstile

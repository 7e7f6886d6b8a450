import Turnstile.Proofs.Lock.Ownership
import Turnstile.Proofs.Run.Only
import Turnstile.Proofs.Text.Digits

set_option autoImplicit false

/-! # What is done about a lock

To acquire a lock is to draw a token and try to set the lock's entry as it (`Lock.acquire_does`).
Where that ends in a failure, no try was granted, unless the clock could not be read for the handle
(`Tried.failed`). To hold a lock is to acquire it, to do what is to be done, and to release it
(`Lock.holding_does`). -/

namespace Turnstile

namespace Lock

/-- A part of trying to acquire a lock as a token. -/
def OfTry (key token : String) (ttl : Int) : Effect → Prop
  | .command c => c = .setIfAbsent key token ttl
  | .log _ | .pause _ | .monotonic => True
  | _ => False

/-- What was done to acquire a lock as a token, and what that came to. -/
structure Tried (key token : String) (ttl : Int) (es : List Event)
    (outcome : Except Failure LockHandle) : Prop where
  only : ∀ e ∈ es, OfTry key token ttl e.effect
  granted : ∀ handle, outcome = .ok handle → handle.key = key ∧ handle.token = token
    ∧ ∃ g ∈ es, g.grant? key = some (token, ttl)
  /-- A granted lock is lost at once only where the monotonic clock could not be read. -/
  failed : ∀ f, outcome = .error f → (∀ e ∈ es, e.grant? key = none)
    ∨ ∃ time task action reason, (⟨time, task, .monotonic, action, .error reason⟩ : Event) ∈ es

variable {key token : String} {o : LockOptions} {task : Nat} {es : List Event}

/-- Refused tries may come before others. -/
theorem Tried.prepend {outcome : Except Failure LockHandle} {first : List Event}
    (tried : Tried key token o.ttl es outcome) (only : ∀ e ∈ first, OfTry key token o.ttl e.effect)
    (refused : ∀ e ∈ first, e.grant? key = none) :
    Tried key token o.ttl (first ++ es) outcome where
  only := List.forall_mem_append.2 ⟨only, tried.only⟩
  granted handle h := by
    obtain ⟨same, as, g, hg, grant⟩ := tried.granted handle h
    exact ⟨same, as, g, List.mem_append_right _ hg, grant⟩
  failed f h := by
    rcases tried.failed f h with none | ⟨time, task, action, reason, unread⟩
    · exact .inl (List.forall_mem_append.2 ⟨refused, none⟩)
    · exact .inr ⟨time, task, action, reason, List.mem_append_right _ unread⟩

theorem Tried.of_error {f : Failure} (only : ∀ e ∈ es, OfTry key token o.ttl e.effect)
    (refused : ∀ e ∈ es, e.grant? key = none) :
    Tried key token o.ttl es (.error f) :=
  ⟨only, fun _ h => (nomatch h), fun _ _ => .inl refused⟩

/-- The monotonic clock is read for the handle of a lock that is granted. -/
theorem handle_does {time : Int} {action : FaultAction} {reply : Json} (truthy : reply.truthy)
    {outcome : Except Failure LockHandle}
    (h : (do return { key, token, ttl := o.ttl, acquiredAt := ← Routine.monotonic } :
      Routine LockHandle).Does task es outcome) :
    Tried key token o.ttl
      (⟨time, task, .command (.setIfAbsent key token o.ttl), action, .ok reply⟩ :: es) outcome := by
  have grant : (⟨time, task, .command (.setIfAbsent key token o.ttl), action, .ok reply⟩ :
      Event).grant? key = some (token, o.ttl) := by simp [Event.grant?, truthy]
  rcases Routine.Does.bind_cases h with ⟨f, reads, rfl⟩ | ⟨acquired, first, rest, rfl, reads, ends⟩
  · obtain ⟨time', action', rfl⟩ := reads.of_monotonic
    refine ⟨by simp [OfTry], fun _ h => (nomatch h), fun _ _ => .inr ⟨time', task, action', f, ?_⟩⟩
    simp
  · obtain ⟨time', action', rfl⟩ := reads.of_monotonic
    obtain ⟨rfl, rfl⟩ := Routine.does_pure.1 ends
    refine ⟨by simp [OfTry], ?_, fun _ h => nomatch h⟩
    rintro _ ⟨⟩
    exact ⟨rfl, rfl, _, List.mem_cons_self, grant⟩

theorem pause_does {ms : Int} {outcome : Except Failure Unit}
    (h : (pause ms).Does task es outcome) :
    (∀ e ∈ es, OfTry key token o.ttl e.effect) ∧ ∀ e ∈ es, e.grant? key = none := by
  unfold pause at h
  split at h
  · obtain ⟨_, _, _, rfl, -⟩ := h.of_ask
    simp [OfTry, Event.grant?]
  · obtain ⟨rfl, -⟩ := Routine.does_throw.1 h
    simp

theorem tries_does {left made : Nat} {cause : Option (ErrorClass × String)}
    {outcome : Except Failure LockHandle}
    (h : (tries key token o left made cause).Does task es outcome) :
    Tried key token o.ttl es outcome := by
  induction left generalizing made cause es with
  | zero =>
    rw [tries] at h
    obtain ⟨time, action, _, rest, rfl, ends⟩ := Routine.Does.ask_cases h
    obtain ⟨rfl, rfl⟩ := Routine.does_throw.1 ends
    exact .of_error (by simp [OfTry]) (by simp [Event.grant?])
  | succ left ih =>
    rw [tries] at h
    rcases Routine.Does.first_cases h with ⟨f, pauses, rfl⟩ | ⟨before, es, rfl, pauses, goes⟩
    · obtain ⟨only, refused⟩ := pause_does pauses
      exact .of_error only refused
    · have paused : (∀ e ∈ before, OfTry key token o.ttl e.effect)
          ∧ ∀ e ∈ before, e.grant? key = none := by
        rcases pauses with rfl | pauses
        · simp
        · exact pause_does pauses
      refine Tried.prepend ?_ paused.1 paused.2
      obtain ⟨reply, first, rest, rfl, issues, next⟩ := Routine.Does.observe_cases goes
      obtain ⟨time, action, rfl⟩ := issues.of_command
      cases reply with
      | ok reply =>
        by_cases truthy : reply.truthy = true
        · simp only [truthy, if_true] at next
          exact handle_does truthy next
        · simp only [truthy] at next
          exact (ih next).prepend (by simp [OfTry]) (by simp [Event.grant?, truthy])
      | error f =>
        by_cases handled : f.isStoreError = true
        · simp only [handled, if_true] at next
          obtain ⟨time', action', _, rest, rfl, more⟩ := Routine.Does.ask_cases next
          rw [List.append_cons]
          exact (ih more).prepend (by simp [OfTry]) (by simp [Event.grant?])
        · simp only [handled] at next
          obtain ⟨rfl, rfl⟩ := Routine.does_throw.1 next
          exact .of_error (by simp [OfTry]) (by simp [Event.grant?])

/-- **What is done to acquire a lock.** A token is drawn, and the lock is tried for as it. -/
theorem acquire_does {outcome : Except Failure LockHandle}
    (h : (acquire key o).Does task es outcome) :
    ∃ time action n rest, es = ⟨time, task, .freshToken, action, n⟩ :: rest
      ∧ Tried key (tokenText n) o.ttl rest outcome := by
  obtain ⟨time, action, n, rest, rfl, tries⟩ := Routine.Does.ask_cases h
  exact ⟨time, action, n, rest, rfl, tries_does tries⟩

section

variable {allowed : Effect → Prop} (note : ∀ message, allowed (.log ⟨.debug, .cache, message⟩))
  (pauses : ∀ ms, allowed (.pause ms)) (reads : allowed .monotonic)

include note pauses reads

/-- Trying for a lock takes nothing but a few effects. -/
theorem tries_only (contends : allowed (.command (.setIfAbsent key token o.ttl)))
    (left made : Nat) (cause : Option (ErrorClass × String)) :
    (tries key token o left made cause).Only allowed := by
  induction left generalizing made cause with
  | zero =>
    rw [tries]
    exact .bind (.ask (note _)) fun _ => .throw _
  | succ left ih =>
    rw [tries]
    refine .first ?_ (.observe (.command contends) fun reply => ?_)
    · unfold pause
      split
      · exact .ask (pauses _)
      · exact .throw _
    · cases reply with
      | ok reply =>
        show Routine.Only _ (if _ then _ else _)
        split
        · exact .bind (.monotonic reads) fun _ => .pure _
        · exact ih _ _
      | error f =>
        show Routine.Only _ (if _ then _ else _)
        split
        · exact .bind (.ask (note _)) fun _ => ih _ _
        · exact .throw _

/-- And so does acquiring one, beside the drawing of its token. -/
theorem acquire_only (draws : allowed .freshToken)
    (contends : ∀ token, allowed (.command (.setIfAbsent key token o.ttl))) :
    (acquire key o).Only allowed :=
  .bind (.ask draws) fun _ => tries_only note pauses reads (contends _) _ _ _

end

/-- What a release comes to, by the reply to it: a failure of the store counts as no. -/
def freed : Except Failure Json → Except Failure Bool
  | .ok value => .ok value.truthy
  | .error f => if f.isStoreError then .ok false else .error f

/-- **What is done to release a lock.** The entry is deleted where it is the handle's; a failure of
    the store is logged and counts as no. -/
theorem release_does {handle : LockHandle} {outcome : Except Failure Bool}
    (h : (release handle).Does task es outcome) :
    ∃ time action reply rest,
      es = ⟨time, task, .command (.deleteIfEqual handle.key handle.token), action, reply⟩ :: rest
      ∧ (∀ e ∈ rest, ∃ entry, e.effect = .log entry)
      ∧ outcome = freed reply := by
  have deletes : ∀ {es : List Event} {x : Except Failure Bool},
      (do return (← Routine.command (.deleteIfEqual handle.key handle.token)).truthy :
        Routine Bool).Does task es x →
      ∃ time action reply,
        es = [⟨time, task, .command (.deleteIfEqual handle.key handle.token), action, reply⟩]
        ∧ x = reply.bind fun value => .ok value.truthy := fun h => Routine.Does.command_then h
  rcases Routine.Does.catching_cases h with ⟨b, issues, rfl⟩ | ⟨f, issues, passed, rfl⟩
    | ⟨f, first, rest, rfl, issues, handled, logs⟩
  · obtain ⟨time, action, reply, rfl, same⟩ := deletes issues
    cases reply with
    | error f => cases same
    | ok value =>
      cases same
      exact ⟨time, action, .ok value, [], rfl, by simp, rfl⟩
  · obtain ⟨time, action, reply, rfl, same⟩ := deletes issues
    cases reply with
    | ok value => cases same
    | error g =>
      cases same
      exact ⟨time, action, .error f, [], rfl, by simp, by simp [freed, passed]⟩
  · obtain ⟨time, action, reply, rfl, same⟩ := deletes issues
    cases reply with
    | ok value => cases same
    | error g =>
      cases same
      obtain ⟨time', action', _, rest, rfl, ends⟩ := Routine.Does.ask_cases logs
      obtain ⟨rfl, rfl⟩ := Routine.does_pure.1 ends
      exact ⟨time, action, .error f, _, rfl, by simp, by simp [freed, handled]⟩

/-- **What is done while a lock is held.** Where the lock is acquired, something is done with its
    handle and the lock is released; a failure of the release takes the place of what that came to.
    -/
theorem holding_does {α : Type} {body : LockHandle → Routine α} {outcome : Except Failure α}
    (h : (holding key o body).Does task es outcome) :
    (∃ f, (acquire key o).Does task es (.error f) ∧ outcome = .error f)
      ∨ ∃ handle inner released first middle last, es = first ++ middle ++ last
        ∧ (acquire key o).Does task first (.ok handle)
        ∧ (body handle).Does task middle inner
        ∧ (release handle).Does task last released
        ∧ outcome = released.bind fun _ => inner := by
  rcases Routine.Does.bind_cases h with failed | ⟨handle, first, rest, rfl, acquires, h⟩
  · exact .inl failed
  · obtain ⟨inner, middle, last, released, rfl, does, releases, rfl⟩ :=
      Routine.Does.ending_cases h
    exact .inr ⟨handle, inner, released, first, middle, last, by simp, acquires, does, releases,
      rfl⟩

end Lock

end Turnstile

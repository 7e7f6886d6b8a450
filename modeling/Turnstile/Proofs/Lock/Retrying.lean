import Turnstile.Proofs.Binary64.Rounding
import Turnstile.Proofs.Lock.Doings
import Turnstile.Proofs.Store.Commands

set_option autoImplicit false

/-! # Tries for a lock

What an acquisition does and comes to is told by the replies to its tries (`Lock.acquire_retries`):
it pauses between one try and the next, goes on while it is refused, stops at the first try that is
granted or fails in a way that is not the store's, and gives up when its tries are used up. The
replies decide how it ends (`Tries`), whatever other tasks do meanwhile and whatever comes in the
way of its commands. A pause beyond the range of the timer ends it before its second try. -/

namespace Turnstile

namespace Lock

/-! ## Tries and pauses -/

/-- What an acquisition does that takes time: a try, with the reply to it, or a pause. -/
inductive Act where
  | tried (reply : Except Failure Json)
  | paused (ms : Int)

/-- The try or the pause that an event is. -/
def act? : Event → Option Act
  | ⟨_, _, .command _, _, reply⟩ => some (.tried reply)
  | ⟨_, _, .pause ms, _, _⟩ => some (.paused ms)
  | _ => none

/-- Tries after `made` others, with a pause before each but the very first. -/
def paced (ms : Int) (made : Nat) : List (Except Failure Json) → List Act
  | [] => []
  | reply :: rest =>
    (if made = 0 then [] else [.paused ms]) ++ .tried reply :: paced ms (made + 1) rest

/-- So there is a pause between each try and the next. -/
theorem paced_zero (ms : Int) (replies : List (Except Failure Json)) :
    paced ms 0 replies = (replies.map Act.tried).intersperse (.paused ms) := by
  cases replies with
  | nil => rfl
  | cons reply rest =>
    show Act.tried reply :: paced ms 1 rest = _
    generalize one : 1 = made
    have again : made ≠ 0 := by omega
    clear one
    induction rest generalizing made reply with
    | nil => rfl
    | cons next rest ih =>
      rw [paced, if_neg again, ih next (made + 1) (by omega)]
      rfl

/-! ## Replies -/

/-- The try did not get the lock, and another may be made: the lock is held, or the store failed. -/
def Refused : Except Failure Json → Prop
  | .ok reply => reply.truthy = false
  | .error f => f.isStoreError = true

/-- The class and message of the last failure among the replies. -/
def lastCause (replies : List (Except Failure Json)) : Option (ErrorClass × String) :=
  (replies.filterMap fun
    | .error f => causeOf f
    | .ok _ => none).getLast?

theorem refused_of_falsy {reply : Json} (falsy : reply.truthy = false) : Refused (.ok reply) :=
  falsy

theorem refused_of_store {cls : ErrorClass} (store : cls.isStoreError) (message : String) :
    Refused (.error (.raised cls message)) := store

theorem lastCause_ok (reply : Json) (rs : List (Except Failure Json)) :
    lastCause (.ok reply :: rs) = lastCause rs := rfl

theorem lastCause_raised (cls : ErrorClass) (message : String) (rs : List (Except Failure Json)) :
    lastCause (.error (.raised cls message) :: rs) = (lastCause rs).or (some (cls, message)) := by
  simp only [lastCause, List.filterMap_cons, causeOf, List.getLast?_cons]
  cases List.getLast? _ <;> rfl

variable {key token : String} {o : LockOptions}

/-- The pause before the next try, where one is due, can be made. -/
def CanPause (o : LockOptions) (made : Nat) : Prop :=
  made ≠ 0 → (pauseMillis? o.retryDelay).isSome

variable (key token o) in
/-- How tries end, by the replies to them: `left` more may be made, after `made`, of which `cause`
    is the last failure. -/
inductive Tries : (left made : Nat) → Option (ErrorClass × String) → List (Except Failure Json) →
    Except Failure LockHandle → Prop
  | spent {made : Nat} {cause : Option (ErrorClass × String)} :
      Tries 0 made cause [] (.error (.lockUnavailable key cause))
  | unpaceable {left made : Nat} {cause : Option (ErrorClass × String)} (again : made ≠ 0)
      (unpaced : pauseMillis? o.retryDelay = none) :
      Tries (left + 1) made cause [] (.error .numberTooLarge)
  | granted {left made : Nat} {cause : Option (ErrorClass × String)} {reply : Json}
      (can : CanPause o made) (truthy : reply.truthy) (acquiredAt : Binary64) :
      Tries (left + 1) made cause [.ok reply] (.ok ⟨key, token, o.ttl, acquiredAt⟩)
  | held {left made : Nat} {cause : Option (ErrorClass × String)} {reply : Json}
      {replies : List (Except Failure Json)} {outcome : Except Failure LockHandle}
      (can : CanPause o made) (falsy : reply.truthy = false)
      (rest : Tries left (made + 1) cause replies outcome) :
      Tries (left + 1) made cause (.ok reply :: replies) outcome
  | failed {left made : Nat} {cause : Option (ErrorClass × String)} {cls : ErrorClass}
      {message : String} {replies : List (Except Failure Json)}
      {outcome : Except Failure LockHandle} (can : CanPause o made) (store : cls.isStoreError)
      (rest : Tries left (made + 1) (some (cls, message)) replies outcome) :
      Tries (left + 1) made cause (.error (.raised cls message) :: replies) outcome
  | passed {left made : Nat} {cause : Option (ErrorClass × String)} {cls : ErrorClass}
      {message : String} (can : CanPause o made) (other : cls.isStoreError = false) :
      Tries (left + 1) made cause [.error (.raised cls message)] (.error (.raised cls message))

/-! ## What an acquisition does -/

section

variable {task : Nat} {es : List Event} {outcome : Except Failure LockHandle}

/-- Where a pause can be made it is one, and otherwise it fails. -/
theorem pause_cases {ms : Int} {x : Except Failure Unit} (h : (pause ms).Does task es x) :
    (∃ slept, pauseMillis? ms = some slept ∧ es.filterMap act? = [.paused slept] ∧ x = .ok ())
      ∨ pauseMillis? ms = none ∧ es = [] ∧ x = .error .numberTooLarge := by
  unfold pause at h
  split at h
  · next slept hs =>
    obtain ⟨time, action, _, rfl, rfl⟩ := h.of_ask
    exact .inl ⟨slept, hs, rfl, rfl⟩
  · next hs =>
    obtain ⟨rfl, rfl⟩ := Routine.does_throw.1 h
    exact .inr ⟨hs, rfl, rfl⟩

/-- What is done before a try: nothing before the first one, and otherwise a pause. -/
theorem before_try_cases {made : Nat} {next : Unit → Routine LockHandle}
    (h : (if made ≠ 0 then pause o.retryDelay >>= next else next ()).Does task es outcome) :
    (made ≠ 0 ∧ pauseMillis? o.retryDelay = none ∧ es = [] ∧ outcome = .error .numberTooLarge)
      ∨ ∃ before rest, es = before ++ rest ∧ CanPause o made ∧ (next ()).Does task rest outcome
        ∧ ∀ ms, (∀ slept, pauseMillis? o.retryDelay = some slept → slept = ms) →
          before.filterMap act? = if made = 0 then [] else [.paused ms] := by
  by_cases again : made ≠ 0
  · rw [if_pos again] at h
    rcases Routine.Does.bind_cases h with ⟨f, pauses, rfl⟩ | ⟨_, before, rest, rfl, pauses, goes⟩
    · rcases pause_cases pauses with ⟨_, _, _, ⟨⟩⟩ | ⟨unpaced, rfl, same⟩
      exact .inl ⟨again, unpaced, rfl, by rw [Except.error.inj same]⟩
    · rcases pause_cases pauses with ⟨slept, hs, acts, -⟩ | ⟨_, _, ⟨⟩⟩
      refine .inr ⟨before, rest, rfl, fun _ => by rw [hs]; rfl, goes, fun ms same => ?_⟩
      rw [if_neg again, acts, same slept hs]
  · rw [if_neg again] at h
    exact .inr ⟨[], es, rfl, fun made => absurd made again, h, fun _ _ => by simp_all⟩

/-- The handle of a lock is made where the monotonic clock can be read. -/
theorem handle_ends (admitted : ∀ e ∈ es, ∃ v : World, v.Admits e)
    (readable : ∀ e ∈ es, MonotonicReadable e.time)
    (h : (do return { key, token, ttl := o.ttl, acquiredAt := ← Routine.monotonic } :
      Routine LockHandle).Does task es outcome) :
    ∃ acquiredAt, outcome = .ok ⟨key, token, o.ttl, acquiredAt⟩ ∧ es.filterMap act? = [] := by
  have read : ∀ {time : Int} {action : FaultAction} {x : Except Failure Binary64},
      ⟨time, task, .monotonic, action, x⟩ ∈ es → x = .ok (seconds time) := by
    intro time action x he
    obtain ⟨v, admits⟩ := admitted _ he
    exact admits.reading_eq (readable _ he)
  rcases Routine.Does.bind_cases h with ⟨f, reads, rfl⟩ | ⟨at', first, rest, rfl, reads, ends⟩
  · obtain ⟨time, action, rfl⟩ := reads.of_monotonic
    cases read (List.mem_singleton.2 rfl)
  · obtain ⟨time, action, rfl⟩ := reads.of_monotonic
    obtain ⟨rfl, rfl⟩ := Routine.does_pure.1 ends
    exact ⟨at', rfl, rfl⟩

/-- **What tries do.** Each is made after a pause, but for the first one, and how they end is told
    by the replies. -/
theorem tries_retry {ms : Int}
    (slept : ∀ slept, pauseMillis? o.retryDelay = some slept → slept = ms)
    {left made : Nat} {cause : Option (ErrorClass × String)}
    (admitted : ∀ e ∈ es, ∃ v : World, v.Admits e)
    (readable : ∀ e ∈ es, MonotonicReadable e.time)
    (h : (tries key token o left made cause).Does task es outcome) :
    ∃ replies, Tries key token o left made cause replies outcome
      ∧ es.filterMap act? = paced ms made replies := by
  induction left generalizing made cause es with
  | zero =>
    rw [tries] at h
    obtain ⟨time, action, _, rest, rfl, ends⟩ := Routine.Does.ask_cases h
    obtain ⟨rfl, rfl⟩ := Routine.does_throw.1 ends
    exact ⟨[], .spent, rfl⟩
  | succ left ih =>
    rw [tries] at h
    rcases before_try_cases h with ⟨again, unpaced, rfl, rfl⟩ | ⟨before, es, rfl, can, goes, waits⟩
    · exact ⟨[], .unpaceable again unpaced, rfl⟩
    have waits := waits ms slept
    obtain ⟨reply, first, rest, rfl, issues, next⟩ := Routine.Does.observe_cases goes
    obtain ⟨time, action, rfl⟩ := issues.of_command
    rw [List.forall_mem_append, List.forall_mem_append, List.forall_mem_singleton]
      at admitted readable
    obtain ⟨-, ⟨v, admits⟩, admitted⟩ := admitted
    obtain ⟨-, -, readable⟩ := readable
    have answer : reply = (action.apply v.now v.store (.setIfAbsent key token o.ttl)).2 :=
      admits.answer
    have told : ∀ {later : List Event} {replies : List (Except Failure Json)},
        later.filterMap act? = paced ms (made + 1) replies →
        (before ++ ([(⟨time, task, .command (.setIfAbsent key token o.ttl), action, reply⟩ : Event)]
          ++ later)).filterMap act? = paced ms made (reply :: replies) := by
      intro later replies same
      rw [List.filterMap_append, List.filterMap_append, waits, same, paced]
      rfl
    cases reply with
    | ok reply =>
      by_cases truthy : reply.truthy = true
      · simp only [truthy, if_true] at next
        obtain ⟨acquiredAt, rfl, quiet⟩ := handle_ends admitted readable next
        exact ⟨[.ok reply], .granted can truthy acquiredAt, told quiet⟩
      · simp only [truthy, if_false, Bool.false_eq_true] at next
        obtain ⟨replies, ends, acts⟩ := ih admitted readable next
        exact ⟨.ok reply :: replies, .held can (by simpa using truthy) ends, told acts⟩
    | error f =>
      obtain ⟨cls, message, rfl⟩ := FaultAction.error_answer answer.symm
      by_cases store : cls.isStoreError = true
      · simp only [Failure.isStoreError, store, if_true] at next
        obtain ⟨time', action', _, later, rfl, more⟩ := Routine.Does.ask_cases next
        rw [List.forall_mem_cons] at admitted readable
        obtain ⟨replies, ends, acts⟩ := ih admitted.2 readable.2 more
        exact ⟨_ :: replies, .failed can store ends, told acts⟩
      · simp only [Failure.isStoreError, store] at next
        obtain ⟨rfl, rfl⟩ := Routine.does_throw.1 next
        exact ⟨[_], .passed can (by simpa using store), told rfl⟩

end

/-! ## What the replies decide -/

namespace Tries

variable {left made : Nat} {cause : Option (ErrorClass × String)}
  {replies : List (Except Failure Json)} {outcome : Except Failure LockHandle}

theorem length_le (h : Tries key token o left made cause replies outcome) :
    replies.length ≤ left := by
  induction h with
  | spent => exact Nat.le_refl 0
  | unpaceable => exact Nat.zero_le _
  | granted | passed => exact Nat.succ_le_succ (Nat.zero_le _)
  | held _ _ _ ih | failed _ _ _ ih => exact Nat.succ_le_succ ih

/-- Where no pause can be made there is but one try. -/
theorem length_le_one (h : Tries key token o left 0 cause replies outcome)
    (unpaced : pauseMillis? o.retryDelay = none) : replies.length ≤ 1 := by
  have none_later : ∀ {left made : Nat} {cause : Option (ErrorClass × String)}
      {replies : List (Except Failure Json)},
      Tries key token o left (made + 1) cause replies outcome → replies = [] := by
    intro left made cause replies later
    have stuck : ¬ CanPause o (made + 1) := by simp [CanPause, unpaced]
    cases later with
    | spent | unpaceable => rfl
    | granted can | held can | failed can | passed can => exact absurd can stuck
  cases h with
  | spent | unpaceable => exact Nat.zero_le _
  | granted | passed => exact Nat.le_refl 1
  | held _ _ rest | failed _ _ rest => rw [none_later rest, List.length_singleton]

/-- The pause that cannot be made comes after a try. -/
theorem ne_nil (h : Tries key token o left 0 cause replies outcome)
    (stuck : outcome = .error .numberTooLarge) : replies ≠ [] := by
  cases h with
  | spent => cases stuck
  | unpaceable again => exact absurd rfl again
  | granted | held | failed | passed => exact List.cons_ne_nil _ _

/-- Only the last try may be other than refused. -/
theorem refused_dropLast (h : Tries key token o left made cause replies outcome) :
    ∀ r ∈ replies.dropLast, Refused r := by
  have cons : ∀ {r : Except Failure Json} {rs : List (Except Failure Json)}, Refused r →
      (∀ x ∈ rs.dropLast, Refused x) → ∀ x ∈ (r :: rs).dropLast, Refused x := by
    intro r rs refused others
    cases rs with
    | nil => simp
    | cons s rs => exact List.forall_mem_cons.2 ⟨refused, others⟩
  induction h with
  | spent | unpaceable | granted | passed => simp
  | held _ falsy _ ih => exact cons (refused_of_falsy falsy) ih
  | failed _ store _ ih => exact cons (refused_of_store store _) ih

/-- A try that is not refused is the last one where it is the last of those after a refused one. -/
theorem getLast?_cons_iff {r x : Except Failure Json} (refused : Refused r) (decided : ¬ Refused x)
    (rs : List (Except Failure Json)) :
    (r :: rs).getLast? = some x ↔ rs.getLast? = some x := by
  have ne : r ≠ x := by
    rintro rfl
    exact decided refused
  cases rs <;> simp [ne]

/-- There is a handle where the last try was granted. -/
theorem granted_iff (h : Tries key token o left made cause replies outcome) :
    (∃ handle, outcome = .ok handle)
      ↔ ∃ reply, replies.getLast? = some (.ok reply) ∧ reply.truthy := by
  have cons : ∀ {r : Except Failure Json} {rs : List (Except Failure Json)}, Refused r →
      ((∃ reply, (r :: rs).getLast? = some (.ok reply) ∧ reply.truthy)
        ↔ ∃ reply, rs.getLast? = some (.ok reply) ∧ reply.truthy) := by
    intro r rs refused
    refine exists_congr fun reply => and_congr_left fun truthy => ?_
    exact getLast?_cons_iff refused (by simp [Refused, truthy]) rs
  induction h with
  | spent | unpaceable => simp
  | granted _ truthy _ => simp [truthy]
  | held _ falsy _ ih => exact ih.trans (cons (refused_of_falsy falsy)).symm
  | failed _ store _ ih => exact ih.trans (cons (refused_of_store store _)).symm
  | passed => simp

theorem eq_of_ok (h : Tries key token o left made cause replies outcome) {handle : LockHandle}
    (ok : outcome = .ok handle) :
    handle.key = key ∧ handle.token = token ∧ handle.ttl = o.ttl := by
  induction h with
  | spent | unpaceable | passed => cases ok
  | granted =>
    cases ok
    exact ⟨rfl, rfl, rfl⟩
  | held _ _ _ ih | failed _ _ _ ih => exact ih ok

/-- A failure of the last try that is not the store's leaves at once. -/
theorem eq_of_passed (h : Tries key token o left made cause replies outcome) {f : Failure}
    (last : replies.getLast? = some (.error f)) (other : f.isStoreError = false) :
    outcome = .error f := by
  have decided : ¬ Refused (.error f) := by simp [Refused, other]
  induction h with
  | spent | unpaceable | granted => simp at last
  | held _ falsy _ ih =>
    exact ih ((getLast?_cons_iff (refused_of_falsy falsy) decided _).1 last)
  | failed _ store _ ih =>
    exact ih ((getLast?_cons_iff (refused_of_store store _) decided _).1 last)
  | passed => simpa using last

/-- The lock is not available where as many tries as there may be were refused; the cause is the
    last failure of the store. -/
theorem unavailable_iff (h : Tries key token o left made cause replies outcome) (k : String)
    (c : Option (ErrorClass × String)) :
    outcome = .error (.lockUnavailable k c)
      ↔ k = key ∧ c = (lastCause replies).or cause ∧ (∀ r ∈ replies, Refused r)
        ∧ replies.length = left := by
  induction h with
  | spent => simp [lastCause, eq_comm]
  | unpaceable => simp
  | granted _ truthy => simp [Refused, truthy]
  | held _ falsy _ ih => simp [ih, refused_of_falsy falsy, lastCause_ok]
  | failed _ store _ ih =>
    simp [ih, refused_of_store store, lastCause_raised]
  | passed _ other => simp [Refused, Failure.isStoreError, other]

/-- Where all tries were refused there were as many as there may be, unless a pause could not be
    made. -/
theorem exhausted (h : Tries key token o left made cause replies outcome)
    (refused : ∀ r ∈ replies, Refused r) :
    replies.length = left
      ∨ pauseMillis? o.retryDelay = none ∧ outcome = .error .numberTooLarge := by
  induction h with
  | spent => exact .inl rfl
  | unpaceable _ unpaced => exact .inr ⟨unpaced, rfl⟩
  | granted _ truthy => simp [Refused, truthy] at refused
  | held _ _ _ ih | failed _ _ _ ih =>
    rcases ih (List.forall_mem_cons.1 refused).2 with all | stuck
    · exact .inl (congrArg (· + 1) all)
    · exact .inr stuck
  | passed _ other => simp [Refused, Failure.isStoreError, other] at refused

end Tries

/-! ## The retry protocol -/

/-- What an acquisition did after it drew its token, and what that came to, by the replies to its
    tries; `ms` is how long its pauses were. -/
structure Retried (key token : String) (o : LockOptions) (ms : Int)
    (replies : List (Except Failure Json)) (es : List Event) (outcome : Except Failure LockHandle) :
    Prop where
  /-- All its commands are tries to set the lock's entry as the token. -/
  only : ∀ e ∈ es, OfTry key token o.ttl e.effect
  /-- Between each try and the next is one pause, and no other is made. -/
  acts : es.filterMap act? = (replies.map .tried).intersperse (.paused ms)
  /-- The pauses are the retry delay, as the timer takes it. -/
  slept : 2 ≤ replies.length → pauseMillis? o.retryDelay = some ms
    ∧ (|o.retryDelay| ≤ 2 ^ 50 → ms = o.retryDelay)
  atMost : (replies.length : Int) ≤ max 0 (o.retries + 1)
  /-- Only a try that was refused is followed by another. -/
  goesOn : ∀ r ∈ replies.dropLast, Refused r
  granted : (∃ handle, outcome = .ok handle)
    ↔ ∃ reply, replies.getLast? = some (.ok reply) ∧ reply.truthy
  handle : ∀ handle, outcome = .ok handle →
    handle.key = key ∧ handle.token = token ∧ handle.ttl = o.ttl
  /-- A failure that is not the store's leaves at once. -/
  passed : ∀ f, replies.getLast? = some (.error f) → f.isStoreError = false → outcome = .error f
  unavailable : ∀ k cause, outcome = .error (.lockUnavailable k cause)
    ↔ k = key ∧ cause = lastCause replies ∧ (∀ r ∈ replies, Refused r)
      ∧ (replies.length : Int) = max 0 (o.retries + 1)
  /-- Where every try was refused all were made, unless the timer does not take the retry delay:
      then the second pause fails. -/
  exhausted : (∀ r ∈ replies, Refused r) → (replies.length : Int) = max 0 (o.retries + 1)
    ∨ pauseMillis? o.retryDelay = none ∧ replies.length = 1 ∧ outcome = .error .numberTooLarge

/-- A task tries for a lock that another holds for a while; its first try fails. -/
def lateGrant : Option (List Event × Schedule (Except Failure LockHandle)) :=
  (Schedule.start [(0, (acquire "k" ⟨5000, 2, 100⟩).run)]
    { store := ({} : Store).put "k" ⟨"other", some 150⟩
      faults := [{ kind := .setIfAbsent, action := .fail .connection "down" false }] }).follow
    [(0, 0), (0, 0), (0, 100), (0, 100), (0, 200), (0, 200)]

theorem isSome_lateGrant : lateGrant.isSome := by decide +kernel

end Lock

end Turnstile

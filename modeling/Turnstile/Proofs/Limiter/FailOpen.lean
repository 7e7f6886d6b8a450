import Turnstile.Proofs.Limiter.Calls
import Turnstile.Proofs.Lock.Doings

set_option autoImplicit false

/-! # Failing open

Only an answer cancels a routine: what a routine throws of its own is no cancellation (`Steady`). So
a look at the record, and the recording of an attempt, come to an answer whatever else goes wrong
under them (`isLimited_does`, `recordFailure_returns`). A drop of the record passes one more kind of
failure, one that its command is answered and that is not the store's (`clear_does`), and so does a
check that matches. -/

namespace Turnstile

/-! ## Cancellations -/

namespace Event

/-- The failure that a command or the reading of a clock was answered. -/
def failure? : Event → Option Failure
  | ⟨_, _, .command _, _, .error f⟩ | ⟨_, _, .clock _, _, .error f⟩
  | ⟨_, _, .monotonic, _, .error f⟩ => some f
  | _ => none

/-- The answer does not end the whole task. -/
def Spares (e : Event) : Prop := ∀ f, e.failure? = some f → f.isCancellation = false

/-- What is answered to an effect that meets an ordinary fault spares the task. -/
theorem spares_of_admits {v : World} {e : Event} (admits : v.Admits e)
    (ordinary : e.action.Ordinary) : e.Spares := by
  obtain ⟨time, task, effect, action, answer⟩ := e
  have answers := admits.answer
  have noTime : ∀ {α : Type} {x : Except ClockError α} {f : Failure},
      x.mapError Failure.noTime = .error f → f.isCancellation = false := by
    intro α x f h
    cases x with
    | ok a => cases h
    | error reason =>
      cases h
      rfl
  intro f failed
  cases effect with
  | command c =>
    cases answer with
    | ok reply => cases failed
    | error g =>
      cases failed
      exact ordinary.isCancellation (Eq.symm answers)
  | clock source =>
    cases answer with
    | ok now => cases failed
    | error g =>
      cases failed
      cases source with
      | skewed index => cases answers
      | system => exact noTime (Eq.symm answers)
  | monotonic =>
    cases answer with
    | ok now => cases failed
    | error g =>
      cases failed
      exact noTime (Eq.symm answers)
  | _ => cases failed

end Event

namespace Routine

/-- Where all answers spare a routine, it does not end in a cancellation. -/
def Steady {α : Type} (r : Routine α) : Prop :=
  ∀ task es f, r.Does task es (.error f) → (∀ e ∈ es, e.Spares) → f.isCancellation = false

namespace Steady

variable {α β : Type} {r : Routine α}

theorem pure (a : α) : (Pure.pure a : Routine α).Steady := by
  intro task es f h
  cases (does_pure.1 h).2

theorem throw {f : Failure} (ordinary : f.isCancellation = false) :
    (MonadExcept.throw f : Routine α).Steady := by
  intro task es g h _
  cases (does_throw.1 h).2
  exact ordinary

theorem ofExcept {x : Except Failure α} (ordinary : ∀ f, x = .error f → f.isCancellation = false) :
    (Routine.ofExcept x).Steady := by
  intro task es f h _
  exact ordinary f (does_ofExcept.1 h).2.symm

theorem ask (e : Effect) : (Routine.ask e).Steady := by
  intro task es f h
  obtain ⟨_, _, _, -, ⟨⟩⟩ := h.of_ask

theorem command (c : Command) : (Routine.command c).Steady := by
  intro task es f h spares
  obtain ⟨time, action, rfl⟩ := h.of_command
  exact spares _ List.mem_cons_self f rfl

theorem readClock (source : Clock) : (Routine.readClock source).Steady := by
  intro task es f h spares
  obtain ⟨time, action, rfl⟩ := h.of_readClock
  exact spares _ List.mem_cons_self f rfl

theorem monotonic : Routine.monotonic.Steady := by
  intro task es f h spares
  obtain ⟨time, action, rfl⟩ := h.of_monotonic
  exact spares _ List.mem_cons_self f rfl

theorem bind {f : α → Routine β} (first : r.Steady) (next : ∀ a, (f a).Steady) :
    (r >>= f).Steady := by
  intro task es g h spares
  rcases Does.bind_cases h with ⟨e, does, ⟨⟩⟩ | ⟨a, before, after, rfl, -, does⟩
  · exact first _ _ _ does spares
  · exact next a _ _ _ does fun e he => spares e (List.mem_append_right _ he)

theorem first {c : Prop} [Decidable c] {r : Routine Unit} {f : Unit → Routine α} (may : r.Steady)
    (next : (f ()).Steady) : (if c then r >>= f else f ()).Steady := by
  split
  · exact bind may fun _ => next
  · exact next

/-- What follows on what a routine came to may take a failure of its own for no cancellation. -/
theorem observe {f : Except Failure α → Routine β} (first : r.Steady)
    (ok : ∀ a, (f (.ok a)).Steady)
    (error : ∀ e, e.isCancellation = false → (f (.error e)).Steady) :
    (Routine.observe r >>= f).Steady := by
  intro task es g h spares
  obtain ⟨outcome, before, after, rfl, does, next⟩ := Does.observe_cases h
  have spared := fun e he => spares e (List.mem_append_right before he)
  cases outcome with
  | ok a => exact ok a _ _ _ next spared
  | error e =>
    have ordinary := first _ _ _ does fun e he => spares e (List.mem_append_left _ he)
    exact error e ordinary _ _ _ next spared

theorem catching {handled : Failure → Bool} {handler : Failure → Routine α} (first : r.Steady)
    (next : ∀ f, (handler f).Steady) : (r.catching handled handler).Steady := by
  refine observe first (fun a => Steady.pure a) fun e ordinary => ?_
  show Steady (if handled e then handler e else MonadExcept.throw e)
  split
  · exact next e
  · exact Steady.throw ordinary

theorem ending {last : Routine β} (first : r.Steady) (after : last.Steady) :
    (r.ending last).Steady := by
  refine observe first (fun a => ?_) fun e ordinary => ?_
  · exact Steady.bind after fun _ => Steady.pure a
  · exact Steady.bind after fun _ => Steady.throw ordinary

end Steady

end Routine

/-! ## What the limiter's calls are made of -/

namespace Lock

variable {key token : String} {o : LockOptions}

theorem steady_pause (ms : Int) : (pause ms).Steady := by
  unfold pause
  split
  · exact .ask _
  · exact .throw rfl

theorem steady_tries (left made : Nat) (cause : Option (ErrorClass × String)) :
    (tries key token o left made cause).Steady := by
  induction left generalizing made cause with
  | zero => exact .bind (.ask _) fun _ => .throw rfl
  | succ left ih =>
    rw [tries]
    refine .first (steady_pause _) (.observe (.command _) (fun reply => ?_) fun f ordinary => ?_)
    · show Routine.Steady (if reply.truthy then _ else _)
      split
      · exact .bind .monotonic fun _ => .pure _
      · exact ih _ _
    · show Routine.Steady (if f.isStoreError then _ else _)
      split
      · exact .bind (.ask _) fun _ => ih _ _
      · exact .throw ordinary

theorem steady_acquire : (acquire key o).Steady :=
  .bind (.ask _) fun _ => steady_tries _ _ _

theorem steady_release (handle : LockHandle) : (release handle).Steady :=
  .catching (.bind (.command _) fun _ => .pure _) fun _ => .bind (.ask _) fun _ => .pure _

theorem steady_holding {α : Type} {body : LockHandle → Routine α}
    (steady : ∀ handle, (body handle).Steady) : (holding key o body).Steady :=
  .bind steady_acquire fun handle => .ending (steady handle) (steady_release handle)

end Lock

namespace Cache

theorem isCancellation_of_valueOf {reply : Json} {f : Failure} (h : valueOf reply = .error f) :
    f.isCancellation = false := by
  unfold valueOf at h
  split at h
  · cases h
  · split at h
    · cases h
    · cases h
      rfl
  · cases h
    rfl

theorem steady_get (key : String) : (get key).Steady :=
  .bind (.command _) fun _ => .ofExcept fun _ => isCancellation_of_valueOf

theorem steady_set (key : String) (value : Json) (ttl : Int) : (set key value ttl).Steady := by
  rw [set]
  refine .first (.throw rfl) ?_
  exact .bind (.command _) fun _ => .pure _

end Cache

theorem Window.isCancellation_of_later {since : Int} {items : List Json} {f : Failure}
    (h : later since items = .error f) : f.isCancellation = false := by
  induction items with
  | nil => cases h
  | cons item rest ih =>
    rw [later] at h
    split at h
    · next g unread =>
      cases h
      unfold timestamp? at unread
      split at unread
      · split at unread
        · cases unread
        · cases unread
          rfl
      · cases unread
      · cases unread
    · exact ih h
    · cases rest : later since rest with
      | ok recent => simp [rest, Except.map] at h
      | error g =>
        simp only [rest, Except.map, Except.error.injEq] at h
        exact ih (h ▸ rest)

namespace Limiter

variable {l : Limiter} {key : String}

theorem steady_storedRecord : (storedRecord key).Steady :=
  .catching (Cache.steady_get key) fun _ => .bind (.ask _) fun _ => .pure _

theorem steady_writeRecord (timestamps : List Int) : (l.writeRecord key timestamps).Steady := by
  refine .bind (.catching ?_ fun _ => .bind (.ask _) fun _ => .pure _) fun _ => .ask _
  exact .bind (Cache.steady_set _ _ _) fun _ => .pure _

theorem steady_checkAndRecord (handle : LockHandle) : (l.checkAndRecord key handle).Steady := by
  refine .bind (.readClock _) fun now => .bind steady_storedRecord fun stored => ?_
  refine .bind (.ofExcept fun _ => Window.isCancellation_of_later) fun recent => ?_
  split
  · exact .bind (.ask _) fun _ => .bind (.ask _) fun _ => .pure _
  · refine .bind (.bind .monotonic fun _ => .pure _) fun late => ?_
    split
    · exact .bind (.ask _) fun _ => .bind (.ask _) fun _ => .pure _
    · exact .bind (steady_writeRecord _) fun _ => .pure _

/-! ## What the calls come to -/

variable {world subject : String} {task : Nat} {es : List Event}

/-- A look that is not cancelled comes to an answer. -/
theorem isLimited_does {outcome : Except Failure Bool}
    (h : (l.isLimited world subject).Does task es outcome) (spares : ∀ e ∈ es, e.Spares) :
    ∃ limited, outcome = .ok limited := by
  have steady : ∀ key, Routine.Steady (do
      let stored ← Cache.get key
      let now ← Routine.readClock l.clock
      let recent ← Routine.ofExcept (l.recent stored now)
      return l.capReached recent : Routine Bool) := fun key =>
    .bind (Cache.steady_get key) fun stored => .bind (.readClock _) fun now =>
      .bind (.ofExcept fun _ => Window.isCancellation_of_later) fun recent => .pure _
  rcases Routine.Does.catching_cases h with ⟨limited, -, rfl⟩ | ⟨f, looks, passed, -⟩
    | ⟨f, first, rest, -, -, -, logs⟩
  · exact ⟨limited, rfl⟩
  · rw [steady _ _ _ _ looks spares] at passed
    cases passed
  · obtain ⟨_, _, _, _, -, ends⟩ := Routine.Does.ask_cases logs
    exact ⟨false, (Routine.does_pure.1 ends).2⟩

/-- The recording of an attempt that is not cancelled comes to an answer. -/
theorem recordFailure_returns {outcome : Except Failure Bool}
    (h : (l.recordFailure world subject).Does task es outcome) (spares : ∀ e ∈ es, e.Spares) :
    ∃ limited, outcome = .ok limited := by
  rcases Routine.Does.catching_cases h with ⟨limited, -, rfl⟩ | ⟨f, tracks, passed, -⟩
    | ⟨f, first, rest, -, -, -, logs⟩
  · exact ⟨limited, rfl⟩
  · rw [Lock.steady_holding steady_checkAndRecord _ _ _ tracks spares] at passed
    cases passed
  · obtain ⟨_, _, _, _, -, counts⟩ := Routine.Does.ask_cases logs
    obtain ⟨_, _, _, _, -, ends⟩ := Routine.Does.ask_cases counts
    exact ⟨false, (Routine.does_pure.1 ends).2⟩

/-- The last that is done is to drop a pair's record, which fails in a way that is not the store's.
    -/
def DropFails (task : Nat) (world subject : String) (es : List Event) (f : Failure) : Prop :=
  ∃ first time action, f.isStoreError = false
    ∧ es = first ++ [⟨time, task, .command (.delete (attemptsKey world subject)), action, .error f⟩]

/-- A record is dropped, unless that fails in a way that is not the store's. -/
theorem clear_does {outcome : Except Failure Unit}
    (h : (clear world subject).Does task es outcome) :
    outcome = .ok () ∨ ∃ f, outcome = .error f ∧ DropFails task world subject es f := by
  have drops : ∀ {es : List Event} {x : Except Failure Bool},
      (do Cache.remove (attemptsKey world subject); return true : Routine Bool).Does task es x →
      x = .ok true ∨ ∃ time action f, x = .error f
        ∧ es = [⟨time, task, .command (.delete (attemptsKey world subject)), action, .error f⟩] := by
    intro es x h
    rcases Routine.Does.bind_cases h with ⟨f, removes, rfl⟩ | ⟨_, first, rest, rfl, removes, ends⟩
    · obtain ⟨time, action, reply, rfl, same⟩ :=
        Routine.Does.command_then (f := fun _ => .ok ()) removes
      cases reply with
      | error f =>
        cases same
        exact .inr ⟨time, action, f, rfl, rfl⟩
      | ok value => cases same
    · exact .inl (Routine.does_pure.1 ends).2
  have counts : ∀ {es : List Event} {x : Except Failure Unit} (dropped : Bool),
      Routine.Does (if dropped then Routine.count .cleared else pure ()) task es x →
      x = .ok () := by
    intro es x dropped h
    cases dropped with
    | true =>
      obtain ⟨_, _, ⟨⟩, -, rfl⟩ := Routine.Does.of_ask h
      rfl
    | false => exact (Routine.does_pure.1 h).2
  rcases Routine.Does.bind_cases h with ⟨f, caught, rfl⟩ | ⟨dropped, first, rest, rfl, -, goes⟩
  · rcases Routine.Does.catching_cases caught with ⟨_, -, ⟨⟩⟩ | ⟨_, fails, passed, ⟨⟩⟩
      | ⟨g, first, rest, rfl, -, -, logs⟩
    · rcases drops fails with ⟨⟨⟩⟩ | ⟨time, action, _, ⟨⟩, rfl⟩
      exact .inr ⟨f, rfl, [], time, action, passed, rfl⟩
    · obtain ⟨_, _, _, _, -, ends⟩ := Routine.Does.ask_cases logs
      cases (Routine.does_pure.1 ends).2
  · exact .inl (counts dropped goes)

end Limiter

namespace Guard

variable {l : Limiter} {requestId world subject : String} {task : Nat} {es : List Event}
  {outcome : Except Failure Bool}

theorem refuse_does (h : (refuse world requestId).Does task es outcome) :
    outcome = .error (.rateLimited world) := by
  obtain ⟨_, _, _, _, -, ends⟩ := Routine.Does.ask_cases h
  exact (Routine.does_throw.1 ends).2

/-- After a match, the record is dropped. -/
theorem matched_does
    (h : (do Limiter.clear world subject; audit world "true" requestId; return true :
      Routine Bool).Does task es outcome) :
    outcome = .ok true ∨ ∃ f, outcome = .error f ∧ Limiter.DropFails task world subject es f := by
  rcases Routine.Does.bind_cases h with ⟨f, clears, rfl⟩ | ⟨_, first, rest, rfl, -, audits⟩
  · rcases Limiter.clear_does clears with ⟨⟨⟩⟩ | ⟨_, ⟨⟩, fails⟩
    exact .inr ⟨f, rfl, fails⟩
  · obtain ⟨_, _, _, _, -, ends⟩ := Routine.Does.ask_cases audits
    exact .inl (Routine.does_pure.1 ends).2

/-- After a mismatch, an attempt is recorded. -/
theorem mismatched_does
    (h : (do
      if ← l.recordFailure world subject then refuse world requestId
      else
        audit world "false reason=invalid" requestId
        return false : Routine Bool).Does task es outcome) (spares : ∀ e ∈ es, e.Spares) :
    outcome = .ok false ∨ outcome = .error (.rateLimited world) := by
  rcases Routine.Does.bind_cases h with ⟨f, records, rfl⟩ | ⟨limited, first, rest, rfl, -, goes⟩
  · obtain ⟨_, ⟨⟩⟩ := Limiter.recordFailure_returns records spares
  · cases limited with
    | true => exact .inr (refuse_does goes)
    | false =>
      obtain ⟨_, _, _, _, -, ends⟩ := Routine.Does.ask_cases goes
      exact .inl (Routine.does_pure.1 ends).2

/-- What a check goes on with after its look. -/
def afterLook (l : Limiter) (requestId world subject : String) (plain hashed : Option String)
    (limited : Bool) : Routine Bool :=
  if limited then refuse world requestId
  else if Bcrypt.verify Bcrypt.digest plain hashed then do
    Limiter.clear world subject
    audit world "true" requestId
    return true
  else do
    if ← l.recordFailure world subject then refuse world requestId
    else
      audit world "false reason=invalid" requestId
      return false

theorem check_eq (plain hashed : Option String) :
    check l requestId world subject (Json.textOrNull plain) (Json.textOrNull hashed)
      = l.isLimited world subject >>= afterLook l requestId world subject plain hashed := by
  rw [check]
  congr 1
  funext limited
  rw [afterLook, matching_textOrNull]
  cases limited with
  | true => rfl
  | false => rfl

/-- What a check goes on with turns the subject away, or tells whether the secret matches, unless
    the drop of the record fails after a match. -/
theorem afterLook_does {plain hashed : Option String} {limited : Bool}
    (h : (afterLook l requestId world subject plain hashed limited).Does task es outcome)
    (spares : ∀ e ∈ es, e.Spares) :
    ((∃ matched, outcome = .ok matched) ∨ outcome = .error (.rateLimited world)
        ∨ ∃ f, outcome = .error f ∧ Limiter.DropFails task world subject es f)
      ∧ (Bcrypt.verify Bcrypt.digest plain hashed = true → limited = false →
        outcome = .ok true ∨ ∃ f, outcome = .error f ∧ Limiter.DropFails task world subject es f)
    := by
  rw [afterLook] at h
  cases limited with
  | true => exact ⟨.inr (.inl (refuse_does h)), fun _ => nofun⟩
  | false =>
    cases matched : Bcrypt.verify Bcrypt.digest plain hashed with
    | true =>
      simp only [matched, if_true] at h
      have ends := matched_does h
      exact ⟨ends.imp (fun yes => ⟨true, yes⟩) .inr, fun _ _ => ends⟩
    | false =>
      simp only [matched] at h
      exact ⟨(mismatched_does h spares).imp (fun no => ⟨false, no⟩) .inl, nofun⟩

end Guard

/-! ## Running alone -/

/-- Nothing that a process is answered cancels it, where only ordinary faults wait. -/
theorem Proc.Obeys.spares_doings {α S : Type} {P : Protocol S} {task : Nat} {ends : α → S → Prop}
    {p : Proc α} {stage : S} (hp : p.Obeys P task ends stage) {s : System}
    (ordinary : ∀ f ∈ s.faults, f.action.Ordinary) : ∀ e ∈ p.doings task s, e.Spares := by
  intro e he
  obtain ⟨v, admits⟩ := Proc.exists_admits_doings task p s e he
  exact Event.spares_of_admits admits (hp.actions_doings nofun ordinary e he)

/-- The last command in a system's trace is the drop of a pair's record, which failed with a failure
    of an ordinary class that is none of the store's. -/
def System.DropFailed (s : System) (task : Nat) (world subject : String) (f : Failure) : Prop :=
  (∃ time, s.accesses.getLast?
      = some ⟨time, task, .delete (attemptsKey world subject), .error f⟩)
    ∧ ∃ cls message, f = .raised cls message ∧ (cls = .runtime ∨ cls = .value ∨ cls = .os)

theorem Limiter.DropFails.dropFailed {α : Type} {task : Nat} {world subject : String} {p : Proc α}
    {s : System} {es : List Event} {f : Failure} (fails : DropFails task world subject es f)
    {first : List Event} (last : p.doings task s = first ++ es) (spares : ∀ e ∈ es, e.Spares) :
    (p.run task s).1.DropFailed task world subject f := by
  obtain ⟨before, time, action, other, rfl⟩ := fails
  let drop : Event := ⟨time, task, .command (.delete (attemptsKey world subject)), action, .error f⟩
  obtain ⟨v, admits⟩ := Proc.exists_admits_doings task p s drop (by simp [last, drop])
  refine ⟨⟨time, ?_⟩, ?_⟩
  · rw [Proc.accesses_run, last, ← List.append_assoc, List.filterMap_append, ← List.append_assoc]
    exact List.getLast?_concat
  · obtain ⟨cls, message, rfl⟩ := FaultAction.error_answer (Eq.symm admits.answer)
    have ordinary : Failure.isCancellation (.raised cls message) = false :=
      spares drop (by simp [drop]) _ rfl
    refine ⟨cls, message, rfl, ?_⟩
    cases cls <;> simp_all [Failure.isStoreError, Failure.isCancellation, ErrorClass.isStoreError]

/-- **Failing open.** Whatever is stored, and whatever ordinary faults come in the way of its
    commands, a look at a pair's record and the recording of an attempt come to an answer. A drop of
    the record succeeds, and a check comes to an answer or turns the subject away, unless the drop's
    command fails in a way that is not the store's. With the same exception, a secret that matches
    is accepted whenever the look finds that the subject is not over its cap. -/
theorem fails_open (l : Limiter) (requestId world subject : String) (plain hashed : Option String)
    (task : Nat) (s : System) (ordinary : ∀ f ∈ s.faults, f.action.Ordinary) :
    let looked := (l.isLimited world subject).run.run task s
    let recorded := (l.recordFailure world subject).run.run task s
    let cleared := (Limiter.clear world subject).run.run task s
    let checked := (Guard.check l requestId world subject (Json.textOrNull plain)
      (Json.textOrNull hashed)).run.run task s
    (∃ limited, looked.2 = .ok limited) ∧ (∃ limited, recorded.2 = .ok limited)
      ∧ (cleared.2 = .ok ()
        ∨ ∃ f, cleared.2 = .error f ∧ cleared.1.DropFailed task world subject f)
      ∧ ((∃ matched, checked.2 = .ok matched) ∨ checked.2 = .error (.rateLimited world)
        ∨ ∃ f, checked.2 = .error f ∧ checked.1.DropFailed task world subject f)
      ∧ (Bcrypt.verify Bcrypt.digest plain hashed = true → looked.2 = .ok false →
        checked.2 = .ok true
          ∨ ∃ f, checked.2 = .error f ∧ checked.1.DropFailed task world subject f) := by
  let p : Site := ⟨l, world, subject, true, true, true⟩
  intro looked recorded cleared checked
  have isOpen : Stage.IsOpen .idle := trivial
  have lookSpares : ∀ e ∈ (l.isLimited world subject).run.doings task s, e.Spares :=
    (Site.isLimited_obeys (p := p) rfl).spares_doings ordinary
  have recordSpares : ∀ e ∈ (l.recordFailure world subject).run.doings task s, e.Spares :=
    (Site.recordFailure_obeys (p := p) rfl isOpen).spares_doings ordinary
  have clearSpares : ∀ e ∈ (Limiter.clear world subject).run.doings task s, e.Spares :=
    (Site.clear_obeys (p := p) rfl isOpen).spares_doings ordinary
  have checkSpares : ∀ e ∈ (Guard.check l requestId world subject (Json.textOrNull plain)
      (Json.textOrNull hashed)).run.doings task s, e.Spares :=
    (Site.check_obeys (p := p) rfl rfl rfl).spares_doings ordinary
  have looks : (l.isLimited world subject).Does task _ looked.2 := Proc.does_doings task _ s
  have records : (l.recordFailure world subject).Does task _ recorded.2 :=
    Proc.does_doings task _ s
  have clears : (Limiter.clear world subject).Does task _ cleared.2 := Proc.does_doings task _ s
  obtain ⟨limited, seen⟩ := Limiter.isLimited_does looks lookSpares
  -- A check is a look, and what it goes on with by what that found.
  let rest := Guard.afterLook l requestId world subject plain hashed limited
  have look : (l.isLimited world subject).run.run task s = (looked.1, .ok limited) :=
    Prod.ext rfl seen
  have comes : checked = rest.run.run task looked.1 := by
    show Proc.run task (ExceptT.run (Guard.check ..)) s = _
    rw [Guard.check_eq, Routine.run_bind, look]
  have does : (Guard.check l requestId world subject (Json.textOrNull plain)
      (Json.textOrNull hashed)).run.doings task s
      = (l.isLimited world subject).run.doings task s ++ rest.run.doings task looked.1 := by
    rw [Guard.check_eq, Routine.doings_bind, look]
  have restSpares : ∀ e ∈ rest.run.doings task looked.1, e.Spares := by
    intro e he
    exact checkSpares e (does ▸ List.mem_append_right _ he)
  have goes : rest.Does task _ checked.2 := comes ▸ Proc.does_doings task _ looked.1
  obtain ⟨ends, accepts⟩ := Guard.afterLook_does goes restSpares
  have dropped : ∀ f, Limiter.DropFails task world subject (rest.run.doings task looked.1) f →
      checked.1.DropFailed task world subject f := fun f fails => fails.dropFailed does restSpares
  refine ⟨⟨limited, seen⟩, Limiter.recordFailure_returns records recordSpares, ?_, ?_, ?_⟩
  · refine (Limiter.clear_does clears).imp_right ?_
    rintro ⟨f, fails, last⟩
    exact ⟨f, fails, last.dropFailed (List.nil_append _).symm clearSpares⟩
  · refine ends.imp_right (Or.imp_right ?_)
    rintro ⟨f, fails, last⟩
    exact ⟨f, fails, dropped f last⟩
  · intro matched open_
    obtain rfl : limited = false := Except.ok.inj (seen.symm.trans open_)
    refine (accepts matched rfl).imp_right ?_
    rintro ⟨f, fails, last⟩
    exact ⟨f, fails, dropped f last⟩

/-- Every drop of a record fails in a way that is not the store's, and other commands fail as well. -/
def troubled : System :=
  { faults := [{ kind := .delete, times := 0, action := .fail .runtime "boom" false },
      { kind := .get, skip := 1, times := 0, action := .fail .os "gone" true },
      { kind := .deleteIfEqual, times := 0, action := .fail .value "odd" false }] }

/-- The look and the recording come to an answer, while the drop passes the failure of its command.
    -/
theorem fails_open_of_troubled :
    (∃ limited, ((Limiter.isLimited ⟨{}, .system⟩ "w" "s").run.run 0 troubled).2 = .ok limited)
      ∧ (∃ limited,
        ((Limiter.recordFailure ⟨{}, .system⟩ "w" "s").run.run 0 troubled).2 = .ok limited)
      ∧ ∃ f, ((Limiter.clear "w" "s").run.run 0 troubled).2 = .error f
        ∧ ((Limiter.clear "w" "s").run.run 0 troubled).1.DropFailed 0 "w" "s" f := by
  have ordinary : ∀ f ∈ troubled.faults, f.action.Ordinary := by
    simp [troubled, FaultAction.Ordinary]
  obtain ⟨looked, recorded, cleared, -⟩ :=
    fails_open ⟨{}, .system⟩ "" "w" "s" none none 0 troubled ordinary
  have raises : ((Limiter.clear "w" "s").run.run 0 troubled).2 ≠ .ok () := by decide +kernel
  exact ⟨looked, recorded, cleared.resolve_left raises⟩

/-- A drop raises what its command is answered, where that is not the store's. -/
theorem clear_raises :
    (∀ f ∈ troubled.faults, f.action.Ordinary)
      ∧ ((Limiter.clear "w" "s").run.run 0 troubled).2 = .error (.raised .runtime "boom") := by
  refine ⟨by simp [troubled, FaultAction.Ordinary], by decide +kernel⟩

end Turnstile

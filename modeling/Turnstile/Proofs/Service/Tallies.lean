import Turnstile.Proofs.Limiter.Counting
import Turnstile.Proofs.Service.Containment

set_option autoImplicit false

/-! # Counters and answers

What the counters of attempts say after any steps of a run without faults, by how the requests for
worlds were answered (`Service.outcomes_agree`). Each of those that was admitted has counted that a
record was cleared, and each whose secret was wrong that an attempt is allowed, or that it went
uncounted; what was turned away has counted nothing, as the look before an attempt turns it away. -/

namespace Turnstile

/-- The world and the subject of a request for a world. -/
def Request.entry? (r : Request) : Option (String × String) :=
  match Destination.of r.method r.path.toList with
  | .route (.enter world) => some (world, r.subject)
  | _ => none

theorem Request.destination_of_entry? {r : Request} {world subject : String}
    (entry : r.entry? = some (world, subject)) :
    Destination.of r.method r.path.toList = .route (.enter world) ∧ r.subject = subject := by
  unfold entry? at entry
  split at entry
  · next leads =>
    cases entry
    exact ⟨leads, rfl⟩
  · cases entry

/-- The two clocks that an attempt needs can be read. -/
def System.Clocked (s : System) : Prop :=
  MonotonicReadable s.elapsed ∧ ∃ now, s.read .system = .ok now

theorem System.clocked_iff (s : System) :
    s.Clocked ↔ MonotonicReadable s.elapsed ∧ (s.read .system).toOption.isSome := by
  unfold Clocked
  cases s.read .system <;> simp [Except.toOption]

instance (s : System) : Decidable s.Clocked := decidable_of_iff' _ s.clocked_iff

/-- What the system clock shows is in the range of binary64 numbers. -/
theorem System.inBinary64Range_of_read {s : System} {now : Int}
    (clock : s.read .system = .ok now) : inBinary64Range now := by
  rw [System.read] at clock
  cases shown : systemMillis s.wall with
  | ok n =>
    rw [shown] at clock
    cases clock
    exact inBinary64Range_of_systemMillis shown
  | error reason =>
    rw [shown] at clock
    cases clock

namespace Service

variable {l : Limiter} {r : Request} {s s' : System} {id : String}

/-! ## Requests that are for no world -/

theorem id_quiet (r : Request) : r.id.Only Effect.IsQuiet := by
  unfold Request.id
  split
  · exact .bind (.ask trivial) fun _ => .pure _
  · exact .bind (.ask trivial) fun _ => .pure _
  · exact .pure _

theorem finish_quiet (id : String) (r : Request) (response : Response) :
    (finish id r response).Only Effect.IsQuiet :=
  .bind (.ask trivial) fun _ => .bind (.ask trivial) fun _ => .pure _

theorem ping_quiet : Cache.ping.Only Effect.IsQuiet :=
  .catching (.bind (.command trivial) fun _ => .pure _) fun _ =>
    .bind (.ask trivial) fun _ => .pure _

theorem respond_quiet (id : String) (none : r.entry? = none) :
    (respond l id r).Only Effect.IsQuiet := by
  unfold Request.entry? at none
  unfold respond
  split
  · next route leads =>
    rw [leads] at none
    refine .catching ?_ fun _ => .throw _
    cases route with
    | health => exact .pure _
    | ready => exact .map _ ping_quiet
    | metrics => exact .bind (.exposition trivial) fun _ => .pure _
    | enter world => cases none
  · exact .pure _
  · exact .pure _
  · exact .pure _

/-- A request that is for no world only reads and makes notes. -/
theorem handle_quiet (none : r.entry? = none) : (handle l r).Only Effect.IsQuiet := by
  refine .bind (id_quiet r) fun id => .observe (respond_quiet id none) fun outcome => ?_
  cases outcome with
  | ok response => exact finish_quiet id r response
  | error f => exact .pure _

/-! ## Requests for a world -/

/-- What a request for a world is answered by what a check comes to, if there is an answer. -/
inductive Answered : Except Failure Bool → Except Failure Response → Prop where
  | admission (matching : Bool) : Answered (.ok matching) (.ok (admission matching))
  | refusal (world : String) :
      Answered (.error (.rateLimited world)) (.ok (refusal (.rateLimited world)))
  | broken (f f' : Failure) : Answered (.error f) (.error f')

/-- To ask the guard whether a request may enter a world is to check, and is answered by what that
    comes to. Where the body of the request cannot be read nothing is done. -/
theorem enter_goes {world : String} (noFault : s.faults = []) {answer : Except Failure Response}
    (run : (enter l id world r).run.run 0 s = (s', answer)) :
    ∃ matching outcome, Guard.Goes l world r.subject 0 s s' matching outcome
      ∧ Answered outcome answer := by
  cases given : r.credentials with
  | error f =>
    rw [enter, given] at run
    cases run
    exact ⟨.error f, .error f, .broken (.refl s), .broken f f⟩
  | ok credentials =>
    obtain ⟨plain, hashed⟩ := credentials
    have run : ((admission <$> Guard.check l id world r.subject plain hashed).catching isRefusal
        fun f => pure (refusal f)).run.run 0 s = (s', answer) := by
      rw [enter, given] at run
      exact run
    generalize checks : (Guard.check l id world r.subject plain hashed).run.run 0 s = ended
    obtain ⟨t, outcome⟩ := ended
    have goes := Guard.check_goes noFault checks
    have asked : (admission <$> Guard.check l id world r.subject plain hashed).run.run 0 s
        = (t, outcome.map admission) := by
      rw [Routine.run_map, checks]
    cases outcome with
    | ok matching =>
      rw [Routine.run_catching_of_ok _ _ (congrArg Prod.snd asked), asked] at run
      cases run
      exact ⟨_, _, goes, .admission matching⟩
    | error f =>
      cases turned : isRefusal f with
      | true =>
        rw [Routine.run_catching_of_error asked turned] at run
        cases run
        cases f with
        | rateLimited world' => exact ⟨_, _, goes, .refusal world'⟩
        | _ => cases turned
      | false =>
        rw [Routine.run_catching_of_passed asked turned] at run
        cases run
        exact ⟨_, _, goes, .broken f f⟩

/-- A request for a world does what the check does, and is answered by what that comes to. A
    cancelled handling gives no answer either way. -/
theorem respond_goes {world subject : String} (entry : r.entry? = some (world, subject))
    (noFault : s.faults = []) {answer : Except Failure Response}
    (run : (respond l id r).run.run 0 s = (s', answer)) :
    ∃ matching outcome, Guard.Goes l world subject 0 s s' matching outcome
      ∧ Answered outcome answer := by
  obtain ⟨leads, rfl⟩ := Request.destination_of_entry? entry
  have run : ((enter l id world r).catching Failure.isCancellation
      fun _ => throw .noResponse).run.run 0 s = (s', answer) := by
    rw [respond, leads] at run
    exact run
  generalize enters : (enter l id world r).run.run 0 s = ended
  obtain ⟨t, entered⟩ := ended
  obtain ⟨matching, outcome, goes, answered⟩ := enter_goes noFault enters
  cases entered with
  | ok response =>
    rw [Routine.run_catching_of_ok _ _ (congrArg Prod.snd enters), enters] at run
    cases run
    exact ⟨matching, outcome, goes, answered⟩
  | error f =>
    cases answered with
    | broken f' =>
      cases cancelled : f.isCancellation with
      | true =>
        rw [Routine.run_catching_of_error enters cancelled] at run
        cases run
        exact ⟨matching, _, goes, .broken f' _⟩
      | false =>
        rw [Routine.run_catching_of_passed enters cancelled] at run
        cases run
        exact ⟨matching, _, goes, .broken f' f⟩

/-! ## Steps -/

/-- The world and the subject of a request for a world that a step makes. -/
def Step.entry? : Step → Option (String × String)
  | .request r => r.entry?
  | _ => none

/-- The step is a request, or some time passes. -/
def Step.IsPlain : Step → Prop
  | .operate _ => False
  | _ => True

/-- The step makes a request for a world, and it is answered with a status. -/
def Step.answers (next : Step) (o : Observation Event) (status : Nat) : Bool :=
  next.entry?.isSome && o.result.status? = some (status, false)

/-- How many requests for a world are answered with a status. -/
def answered (l : Limiter) (s : System) (steps : List Step) (status : Nat) : Nat :=
  (steps.zip (trail l s steps)).countP fun (next, o) => next.answers o status

theorem answered_cons (l : Limiter) (s : System) (next : Step) (rest : List Step) (status : Nat) :
    answered l s (next :: rest) status
      = (if next.answers (observe s (step l next)).2 status then 1 else 0)
        + answered l (observe s (step l next)).1 rest status := by
  rw [answered, trail, List.zip_cons_cons, List.countP_cons, Nat.add_comm]
  rfl

/-- The status that a client is told, and whether the handling failed. -/
def told : Except Failure Response → Nat × Bool
  | .ok response => (response.status, false)
  | .error _ => (500, true)

/-- A request for a world is handled as its check goes, and the answer it is observed to be given is
    that of the check. -/
theorem request_goes {world subject : String} (entry : r.entry? = some (world, subject))
    (noFault : s.faults = []) :
    ∃ s₁ s₂ matching outcome answer, s.Still s₁
      ∧ Guard.Goes l world subject 0 s₁ s₂ matching outcome
      ∧ s₂.Still (observe s (step l (.request r))).1
      ∧ Answered outcome answer
      ∧ (observe s (step l (.request r))).2.result.status? = some (told answer) := by
  obtain ⟨tokens, observed⟩ := observe_request l r s
  have still₁ : s.Still { s with tokens } := ⟨rfl, rfl, rfl, rfl, rfl, rfl⟩
  generalize responds : (respond l (r.idAfter s.tokens) r).run.run 0 { s with tokens } = ended
    at observed
  obtain ⟨s₂, answer⟩ := ended
  obtain ⟨matching, outcome, goes, answers⟩ :=
    respond_goes (s := { s with tokens }) entry noFault responds
  refine ⟨_, s₂, matching, outcome, answer, still₁, goes, ?_⟩
  rw [observed]
  cases answer with
  | ok response => exact ⟨⟨rfl, rfl, rfl, rfl, rfl, rfl⟩, answers, rfl⟩
  | error f => exact ⟨⟨rfl, rfl, rfl, rfl, rfl, rfl⟩, answers, rfl⟩

/-! ## Counters -/

/-- From one system to another this many records were cleared, this many attempts allowed or left
    uncounted, and none turned away. -/
structure Agrees (s s' : System) (admitted denied : Nat) : Prop where
  cleared : s'.counted .cleared = s.counted .cleared + admitted
  tried : s'.counted .allowed + s'.counted .failOpen
    = s.counted .allowed + s.counted .failOpen + denied
  refused : s'.counted .rateLimited = s.counted .rateLimited

theorem Agrees.trans {s s₁ s₂ : System} {a d a' d' : Nat} (first : Agrees s s₁ a d)
    (second : Agrees s₁ s₂ a' d') : Agrees s s₂ (a + a') (d + d') where
  cleared := by rw [second.cleared, first.cleared, Nat.add_assoc]
  tried := by rw [second.tried, first.tried, Nat.add_assoc]
  refused := second.refused.trans first.refused

theorem Agrees.of_counts {s s' : System} {outcomes : List AttemptOutcome}
    (counts : s.Counts outcomes s') (refused : outcomes.count .rateLimited = 0) :
    Agrees s s' (outcomes.count .cleared) (outcomes.count .allowed + outcomes.count .failOpen) where
  cleared := counts .cleared
  tried := by
    rw [counts .allowed, counts .failOpen]
    omega
  refused := by rw [counts .rateLimited, refused, Nat.add_zero]

/-- What a check has counted agrees with the answer it leads to. -/
theorem Agrees.of_tells {s s' : System} {outcome : Except Failure Bool}
    {answer : Except Failure Response} {outcomes : List AttemptOutcome} {next : Step}
    {o : Observation Event} (counts : s.Counts outcomes s') (tells : Tells outcome outcomes)
    (answers : Answered outcome answer) (entry : next.entry?.isSome)
    (status : o.result.status? = some (Service.told answer)) :
    Agrees s s' (if next.answers o 200 then 1 else 0) (if next.answers o 401 then 1 else 0) := by
  have known : ∀ status,
      next.answers o status = decide (o.result.status? = some (status, false)) := by
    intro status
    rw [Step.answers, entry, Bool.true_and]
  rw [known, known, status]
  cases answers with
  | admission matching =>
    cases tells with
    | cleared => exact .of_counts counts rfl
    | allowed => exact .of_counts counts rfl
    | failOpen => exact .of_counts counts rfl
  | refusal world =>
    cases tells
    exact .of_counts counts rfl
  | broken f f' =>
    cases tells
    exact .of_counts counts rfl

/-! ## One step -/

section

variable {keys locks : String → Prop} {next : Step}

/-- The step is no operation, and if it makes a request for a world then the key of the record and
    that of the lock are among those given. -/
structure Step.Fits (next : Step) (keys locks : String → Prop) : Prop where
  plain : next.IsPlain
  key : ∀ world subject, next.entry? = some (world, subject) → keys (attemptsKey world subject)
  lock : ∀ world subject, next.entry? = some (world, subject) → locks (lockKey world subject)

/-- A step that makes no request for a world lets time pass, if it does anything. -/
theorem step_idles (noFault : s.faults = []) (plain : next.IsPlain) (none : next.entry? = none) :
    ∃ ms, (s.wait ms).Still (observe s (step l next)).1 := by
  rw [observe_fst]
  cases next with
  | request r =>
    have still := (handle_quiet (l := l) none).still_run 0 noFault
    have now : s.elapsed + max 0 0 = s.elapsed := by omega
    rw [step, Routine.run_map]
    exact ⟨0, still.epoch, still.elapsed.trans now.symm, still.store, still.faults, still.skews,
      still.outcomes⟩
  | wait ms => exact ⟨ms, rfl, rfl, rfl, rfl, rfl, rfl⟩
  | operate operation => exact plain.elim

variable (cap : 1 ≤ l.config.cap) (lasting : Register.Lasting l.config)
  (apart : ∀ k, keys k → ¬locks k)

include cap lasting apart

/-- **The counters agree with the answer to a step.** -/
theorem step_agrees (unfaulted : Unfaulted locks s) (fits : next.Fits keys locks) :
    Unfaulted locks (observe s (step l next)).1
      ∧ Agrees s (observe s (step l next)).1
        (if next.answers (observe s (step l next)).2 200 then 1 else 0)
        (if next.answers (observe s (step l next)).2 401 then 1 else 0) := by
  cases entry : next.entry? with
  | none =>
    obtain ⟨ms, still⟩ := step_idles (l := l) unfaulted.noFault fits.plain entry
    have unanswered : ∀ status, next.answers (observe s (step l next)).2 status = false := by
      simp [Step.answers, entry]
    have counts : s.Counts [] (observe s (step l next)).1 :=
      fun o => still.counts o
    rw [unanswered, unanswered]
    exact ⟨(unfaulted.wait ms).still still, .of_counts counts rfl⟩
  | some pair =>
    obtain ⟨world, subject⟩ := pair
    cases next with
    | request r =>
      obtain ⟨s₁, s₂, matching, outcome, answer, still, goes, noted, answers, status⟩ :=
        request_goes (l := l) entry unfaulted.noFault
      obtain ⟨unfaulted₂, outcomes, counts, tells⟩ := (unfaulted.still still).check cap
        lasting.ttl lasting.retries
        (fits.lock _ _ entry) (apart _ (fits.key _ _ entry)) goes
      have counts : s.Counts outcomes (observe s (step l (.request r))).1 := by
        simpa using (still.counts.trans counts).trans noted.counts
      exact ⟨unfaulted₂.still noted,
        .of_tells counts tells answers (by rw [entry]; rfl) status⟩
    | _ => cases entry

/-- With both clocks no attempt of a step goes uncounted. -/
theorem step_tracks (lists : s.Lists keys) (unfaulted : Unfaulted locks s)
    (system : l.clock = .system) (fits : next.Fits keys locks)
    (clocked : next.entry?.isSome → s.Clocked) :
    (observe s (step l next)).1.Lists keys
      ∧ (observe s (step l next)).1.counted .failOpen = s.counted .failOpen := by
  cases entry : next.entry? with
  | none =>
    obtain ⟨ms, still⟩ := step_idles (l := l) unfaulted.noFault fits.plain entry
    exact ⟨(lists.wait ms).still still, still.counts .failOpen⟩
  | some pair =>
    obtain ⟨world, subject⟩ := pair
    obtain ⟨readable, now, clock⟩ := clocked (by rw [entry]; rfl)
    cases next with
    | request r =>
      obtain ⟨s₁, s₂, matching, outcome, answer, still, goes, noted, -, -⟩ :=
        request_goes (l := l) entry unfaulted.noFault
      have before := unfaulted.still still
      have lock := fits.lock _ _ entry
      have key := fits.key _ _ entry
      have readable₁ : MonotonicReadable s₁.elapsed := by
        rw [still.elapsed]
        exact readable
      have clock₁ : s₁.read l.clock = .ok now := by
        rw [system, ← clock, System.read, System.read, System.wall, System.wall, still.epoch,
          still.elapsed]
      have keep : 1 ≤ l.config.recordSeconds := by
        have := lasting.keep
        omega
      obtain ⟨lists₂, none⟩ := (lists.still still).check before.noFault cap keep lasting.ttl
        lasting.retries key (fun record => apart _ record lock) (before.free readable₁ _ lock)
        readable₁ clock₁ (System.inBinary64Range_of_read clock) goes
      refine ⟨lists₂.still noted, ?_⟩
      rw [noted.counted, none, still.counted]
    | _ => cases entry

/-! ## Whole runs -/

variable {steps : List Step}

/-- The counters agree with the answers to all steps. -/
theorem after_agrees (unfaulted : Unfaulted locks s)
    (fits : ∀ next ∈ steps, next.Fits keys locks) :
    Agrees s (after l s steps) (answered l s steps 200) (answered l s steps 401) := by
  induction steps generalizing s with
  | nil => exact ⟨rfl, rfl, rfl⟩
  | cons next rest ih =>
    rw [List.forall_mem_cons] at fits
    obtain ⟨further, first⟩ := step_agrees cap lasting apart unfaulted fits.1
    rw [answered_cons, answered_cons]
    exact first.trans (ih further fits.2)

/-- With both clocks none of their attempts goes uncounted. -/
theorem after_tracks (lists : s.Lists keys) (unfaulted : Unfaulted locks s)
    (system : l.clock = .system) (fits : ∀ next ∈ steps, next.Fits keys locks)
    (clocked : ∀ (j : Nat) (next : Step), steps[j]? = some next → next.entry?.isSome →
      (after l s (steps.take j)).Clocked) :
    (after l s steps).counted .failOpen = s.counted .failOpen := by
  induction steps generalizing s with
  | nil => rfl
  | cons next rest ih =>
    rw [List.forall_mem_cons] at fits
    obtain ⟨further, -⟩ := step_agrees cap lasting apart unfaulted fits.1
    obtain ⟨lists', none⟩ := step_tracks cap lasting apart lists unfaulted system fits.1
      (clocked 0 next rfl)
    have later := ih lists' further fits.2 fun j next at_ entry => clocked (j + 1) next at_ entry
    exact later.trans none

end

/-- **The counters agree with the answers.** The service starts on an empty store with nothing
    counted, no fault comes up, and no record that a request for a world is about is the lock of
    another. At every point of the run the attempts that were counted as allowed or went uncounted
    are as many as the requests for worlds that were answered 401, and the records counted as
    cleared as many as those that were answered 200. That the cap was reached is never counted: whom
    the service turns away it turns away at the look, before an attempt is recorded. And no attempt
    goes uncounted as long as both clocks can be read whenever a request for a world comes. -/
theorem outcomes_agree (settings : Settings) {s : System} {steps : List Step}
    (cap : 1 ≤ settings.cap) (noFault : s.faults = []) (started : 0 ≤ s.elapsed)
    (empty : ∀ k, s.get? k = none) (uncounted : ∀ o : AttemptOutcome, s.counted o = 0)
    (plain : ∀ next ∈ steps, next.IsPlain)
    (apart : ∀ next ∈ steps, ∀ next' ∈ steps, ∀ world subject world' subject',
      next.entry? = some (world, subject) → next'.entry? = some (world', subject') →
        attemptsKey world subject ≠ lockKey world' subject') (i : Nat) :
    let now := reached settings s (steps.take i)
    let answers := answered ⟨settings.limiter, .system⟩ (start settings s).1 (steps.take i)
    now.counted .allowed + now.counted .failOpen = answers 401
      ∧ now.counted .cleared = answers 200
      ∧ now.counted .rateLimited = 0
      ∧ ((∀ (j : Nat) (next : Step), j < i → steps[j]? = some next → next.entry?.isSome →
          (reached settings s (steps.take j)).Clocked) → now.counted .failOpen = 0) := by
  intro now answers
  let keys (k : String) : Prop := ∃ next ∈ steps, ∃ world subject,
    next.entry? = some (world, subject) ∧ k = attemptsKey world subject
  let locks (k : String) : Prop := ∃ next ∈ steps, ∃ world subject,
    next.entry? = some (world, subject) ∧ k = lockKey world subject
  have apart' : ∀ k, keys k → ¬locks k := by
    rintro _ ⟨next, hn, world, subject, entry, rfl⟩ ⟨next', hn', world', subject', entry', same⟩
    exact apart next hn next' hn' world subject world' subject' entry entry' same
  have fits : ∀ next ∈ steps.take i, next.Fits keys locks := by
    intro next hn
    have hn := List.mem_of_mem_take hn
    exact ⟨plain next hn, fun world subject entry => ⟨next, hn, world, subject, entry, rfl⟩,
      fun world subject entry => ⟨next, hn, world, subject, entry, rfl⟩⟩
  have absent : ∀ k t, s.elapsed ≤ t → s.store.get? t k = none :=
    fun k t later => Store.get?_eq_none_later later (empty k)
  have begins := start_fst settings s
  have unfaulted : Unfaulted locks (start settings s).1 := by
    rw [begins]
    exact ⟨noFault, started, fun _ k _ => empty k⟩
  have lists : (start settings s).1.Lists keys := by
    rw [begins]
    exact fun k _ t later => .inl (absent k t later)
  have none : ∀ o : AttemptOutcome, (start settings s).1.counted o = 0 := by
    rw [begins]
    exact uncounted
  have lasting : Register.Lasting settings.limiter :=
    ⟨show (max 1 60 : Int) ≤ 70 by decide, show (1 : Int) ≤ 5000 by decide,
      show (0 : Int) ≤ 3 by decide⟩
  have agrees := after_agrees (l := ⟨settings.limiter, .system⟩) cap lasting apart' unfaulted fits
  refine ⟨?_, ?_, ?_, fun clocked => ?_⟩
  · have tried := agrees.tried
    rw [none, none, Nat.add_zero, Nat.zero_add] at tried
    exact tried
  · have cleared := agrees.cleared
    rw [none, Nat.zero_add] at cleared
    exact cleared
  · exact agrees.refused.trans (none _)
  · refine (after_tracks (l := ⟨settings.limiter, .system⟩) cap lasting apart' lists unfaulted
      rfl fits fun j next at_ entry => ?_).trans (none _)
    have lt : j < i := by
      have := (List.getElem?_eq_some_iff.1 at_).1
      rw [List.length_take] at this
      omega
    rw [List.getElem?_take_of_lt lt] at at_
    have before := clocked j next lt at_ entry
    rw [List.take_take, Nat.min_eq_left lt.le]
    exact before

/-- A cap of one. -/
def strictSettings : Settings := { cap := 1 }

/-- A world is asked for twice, with a secret that is wrong. -/
def twoEntries : List Step := [.request entryRequest, .wait 1000, .request entryRequest]

theorem entry?_entryRequest : entryRequest.entry? = some ("w", "10.0.0.1") := by decide +kernel

/-- The first request counts an attempt, and the second one nothing. -/
theorem outcomes_agree_of_twoEntries :
    let now := reached strictSettings {} (twoEntries.take 3)
    now.counted .allowed = 1 ∧ now.counted .failOpen = 0 ∧ now.counted .cleared = 0
      ∧ now.counted .rateLimited = 0 := by
  have entries : ∀ next ∈ twoEntries, ∀ pair, next.entry? = some pair →
      pair = ("w", "10.0.0.1") := by
    intro next hn pair entry
    simp only [twoEntries, List.mem_cons, List.not_mem_nil, or_false] at hn
    rcases hn with rfl | rfl | rfl
    · exact Option.some.inj (entry.symm.trans entry?_entryRequest)
    · cases entry
    · exact Option.some.inj (entry.symm.trans entry?_entryRequest)
  have plain : ∀ next ∈ twoEntries, next.IsPlain := by simp [twoEntries, Step.IsPlain]
  have apart : ∀ next ∈ twoEntries, ∀ next' ∈ twoEntries, ∀ world subject world' subject',
      next.entry? = some (world, subject) → next'.entry? = some (world', subject') →
        attemptsKey world subject ≠ lockKey world' subject' := by
    intro next hn next' hn' world subject world' subject' entry entry'
    cases entries next hn _ entry
    cases entries next' hn' _ entry'
    exact attemptsKey_ne_lockKey _ _
  have clocked : ∀ (j : Nat) (next : Step), j < 3 → twoEntries[j]? = some next →
      next.entry?.isSome → (reached strictSettings {} (twoEntries.take j)).Clocked := by
    have readable : ∀ j < 3, (reached strictSettings {} (twoEntries.take j)).Clocked := by
      decide +kernel
    exact fun j _ lt _ _ => readable j lt
  have denied : answered ⟨strictSettings.limiter, .system⟩ (start strictSettings {}).1
      (twoEntries.take 3) 401 = 1 := by decide +kernel
  have admitted : answered ⟨strictSettings.limiter, .system⟩ (start strictSettings {}).1
      (twoEntries.take 3) 200 = 0 := by decide +kernel
  obtain ⟨tried, cleared, refused, tracked⟩ := @outcomes_agree strictSettings {} twoEntries
    (by decide) rfl (by decide) (fun _ => rfl) (fun _ => rfl) plain apart 3
  have none := tracked clocked
  rw [denied, none, Nat.add_zero] at tried
  exact ⟨tried, none, cleared.trans admitted, refused⟩

/-- A world is asked for at a time beyond the range of the clocks. -/
def lateEntry : List Step := [.wait (10 ^ 400), .request entryRequest]

/-- The second of two requests is answered that the subject is over its cap, and no counter tells of
    it. A request that comes too late for the clocks is answered that the secret is wrong, and its
    attempt goes uncounted. -/
theorem counters_disagree :
    (answered ⟨strictSettings.limiter, .system⟩ (start strictSettings {}).1 twoEntries 429 = 1
        ∧ (reached strictSettings {} twoEntries).metrics.outcomes = [("allowed", 1)])
      ∧ answered ⟨strictSettings.limiter, .system⟩ (start strictSettings {}).1 lateEntry 401 = 1
        ∧ (reached strictSettings {} lateEntry).metrics.outcomes = [("fail_open", 1)] := by
  decide +kernel

end Service

end Turnstile

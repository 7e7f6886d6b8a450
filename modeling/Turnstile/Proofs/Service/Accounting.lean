import Mathlib.Data.List.Forall2
import Turnstile.Proofs.Metrics.Exposition
import Turnstile.Proofs.Service.Containment

set_option autoImplicit false

/-! # Accounting for requests

Every request that is answered with a response is counted once and logged with one line, and no
request whose handling fails is (`Service.requests_accounted`). That is so whatever comes in the way
of commands, as what handles a request neither counts requests nor logs as the service itself: both
is left to what is done with the response. And the text of the metrics tells exactly what was
counted (`Metrics.exposition_tells`). -/

namespace Turnstile

/-! ## What is done inside a request -/

/-- The effect counts no request, logs no line as the service itself and is none of the operator's.
    -/
def Effect.IsInner : Effect → Prop
  | .log entry => entry.logger ≠ .app
  | .countRequest .. | .operate _ => False
  | _ => True

/-- The lines that the service itself has logged. -/
def serviceLines (logs : List LogEntry) : List LogEntry := logs.filter (·.logger = .app)

/-- From one system to the other no request was counted and no line logged as the service itself. -/
structure System.SameAccount (s s' : System) : Prop where
  requests : s'.metrics.requests = s.metrics.requests
  lines : serviceLines s'.logs = serviceLines s.logs

theorem System.SameAccount.trans {s s₁ s₂ : System} (first : s.SameAccount s₁)
    (second : s₁.SameAccount s₂) : s.SameAccount s₂ :=
  ⟨second.requests.trans first.requests, second.lines.trans first.lines⟩

/-- An inner effect leaves the account as it is. -/
theorem Effect.IsInner.sameAccount {e : Effect} (inner : e.IsInner) (task : Nat) (s : System) :
    s.SameAccount (e.perform task (e.issue task s).action
      ((e.issue task s).system.wait (e.issue task s).delay)).1 := by
  cases e with
  | log entry =>
    refine ⟨rfl, ?_⟩
    have other : entry.logger ≠ .app := inner
    show serviceLines (s.logs ++ [entry]) = _
    simp [serviceLines, other]
  | countRequest | operate => exact inner.elim
  | _ => exact ⟨rfl, rfl⟩

/-- So does a process of such effects, whatever comes in its way. -/
theorem Proc.Only.sameAccount {α : Type} {p : Proc α} (inner : p.Only Effect.IsInner) (task : Nat)
    (s : System) : s.SameAccount (p.run task s).1 := by
  induction p generalizing s with
  | done a => exact ⟨rfl, rfl⟩
  | perform e next ih =>
    have first := inner.1.sameAccount task s
    exact first.trans (ih _ (inner.2 _) _)

theorem Routine.log_inner (level : LogLevel) {logger : Logger} (other : logger ≠ .app)
    (message : String) : (Routine.log level logger message).Only Effect.IsInner :=
  .ask other

theorem Cache.get_inner (key : String) : (Cache.get key).Only Effect.IsInner :=
  .bind (.command trivial) fun _ => .ofExcept _

theorem Cache.ping_inner : Cache.ping.Only Effect.IsInner :=
  .catching (.bind (.command trivial) fun _ => .pure _) fun _ =>
    .bind (Routine.log_inner _ (by decide) _) fun _ => .pure _

theorem Cache.set_inner (key : String) (value : Json) (ttl : Int) :
    (Cache.set key value ttl).Only Effect.IsInner := by
  unfold Cache.set
  split
  · exact .throw _
  · exact .bind (.command trivial) fun _ => .pure _

theorem Lock.release_inner (handle : LockHandle) : (Lock.release handle).Only Effect.IsInner :=
  .catching (.bind (.command trivial) fun _ => .pure _) fun _ =>
    .bind (Routine.log_inner _ (by decide) _) fun _ => .pure _

theorem Lock.holding_inner {α : Type} (key : String) (o : LockOptions)
    {body : LockHandle → Routine α} (inner : ∀ handle, (body handle).Only Effect.IsInner) :
    (Lock.holding key o body).Only Effect.IsInner := by
  refine .bind (Lock.acquire_only (fun _ => by simp [Effect.IsInner]) (fun _ => trivial) trivial
    trivial fun _ => trivial) fun handle => ?_
  refine .observe (inner handle) fun outcome => .bind (Lock.release_inner handle) fun _ => ?_
  cases outcome with
  | ok a => exact .pure a
  | error f => exact .throw f

namespace Limiter

variable (l : Limiter) (world subject : String)

theorem isLimited_inner : (l.isLimited world subject).Only Effect.IsInner := by
  refine .catching (.bind (Cache.get_inner _) fun stored => ?_) fun f => ?_
  · exact .bind (.readClock trivial) fun now => .bind (.ofExcept _) fun recent => .pure _
  · exact .bind (Routine.log_inner _ (by decide) _) fun _ => .pure _

theorem storedRecord_inner (key : String) : (storedRecord key).Only Effect.IsInner :=
  .catching (Cache.get_inner key) fun _ =>
    .bind (Routine.log_inner _ (by decide) _) fun _ => .pure _

theorem writeRecord_inner (key : String) (timestamps : List Int) :
    (l.writeRecord key timestamps).Only Effect.IsInner := by
  refine .bind (.catching (.bind (Cache.set_inner _ _ _) fun _ => .pure _) fun f => ?_)
    fun outcome => .ask trivial
  exact .bind (Routine.log_inner _ (by decide) _) fun _ => .pure _

theorem checkAndRecord_inner (key : String) (handle : LockHandle) :
    (l.checkAndRecord key handle).Only Effect.IsInner := by
  refine .bind (.readClock trivial) fun now => .bind (storedRecord_inner key) fun stored =>
    .bind (.ofExcept _) fun recent => ?_
  show Routine.Only _ (if _ then _ else _)
  split
  · exact .bind (Routine.log_inner _ (by decide) _) fun _ => .bind (.ask trivial) fun _ => .pure _
  · refine .bind (.bind (.monotonic trivial) fun _ => .pure _) fun expired => ?_
    show Routine.Only _ (if _ then _ else _)
    split
    · exact .bind (Routine.log_inner _ (by decide) _) fun _ =>
        .bind (.ask trivial) fun _ => .pure _
    · exact .bind (l.writeRecord_inner key _) fun _ => .pure _

theorem recordFailure_inner : (l.recordFailure world subject).Only Effect.IsInner :=
  .catching (Lock.holding_inner _ _ fun _ => l.checkAndRecord_inner _ _) fun _ =>
    .bind (Routine.log_inner _ (by decide) _) fun _ => .bind (.ask trivial) fun _ => .pure _

theorem clear_inner : (clear world subject).Only Effect.IsInner := by
  refine .bind (.catching (.bind (.bind (.command trivial) fun _ => .pure _) fun _ => .pure _)
    fun f => .bind (Routine.log_inner _ (by decide) _) fun _ => .pure _) fun dropped => ?_
  cases dropped with
  | true => exact .ask trivial
  | false => exact .pure _

end Limiter

theorem Guard.audit_inner (world outcome requestId : String) :
    (Guard.audit world outcome requestId).Only Effect.IsInner :=
  Routine.log_inner _ (by decide) _

theorem Guard.check_inner (l : Limiter) (requestId world subject : String) (plain hashed : Json) :
    (Guard.check l requestId world subject plain hashed).Only Effect.IsInner := by
  have refuse : (Guard.refuse world requestId).Only Effect.IsInner :=
    .bind (Guard.audit_inner _ _ _) fun _ => .throw _
  refine .bind (l.isLimited_inner world subject) fun limited => ?_
  cases limited with
  | true => exact refuse
  | false =>
    refine .bind (.ofExcept _) fun matching => ?_
    cases matching with
    | true =>
      exact .bind (Limiter.clear_inner _ _) fun _ =>
        .bind (Guard.audit_inner _ _ _) fun _ => .pure _
    | false =>
      refine .bind (l.recordFailure_inner world subject) fun limited => ?_
      cases limited with
      | true => exact refuse
      | false => exact .bind (Guard.audit_inner _ _ _) fun _ => .pure _

namespace Service

variable {l : Limiter} {r : Request} {s : System}

/-- To respond to a request leaves the account as it is. -/
theorem respond_inner (l : Limiter) (id : String) (r : Request) :
    (respond l id r).Only Effect.IsInner := by
  unfold respond
  split
  · next route leads =>
    refine .catching ?_ fun _ => .throw _
    cases route with
    | health => exact .pure _
    | ready => exact .map _ Cache.ping_inner
    | metrics => exact .bind (.exposition trivial) fun _ => .pure _
    | enter world =>
      refine .bind (.ofExcept _) fun credentials => .catching (.map _ ?_) fun _ => .pure _
      exact Guard.check_inner _ _ _ _ _ _
  · exact .pure _
  · exact .pure _
  · exact .pure _

/-- What responds to a request leaves its id to what is done with the response. -/
theorem respond_unlabelled {id : String} {task : Nat} {es : List Turnstile.Event}
    {response : Response} (h : (respond l id r).Does task es (.ok response)) :
    ∀ header ∈ response.headers, header.1 ≠ "x-request-id" := by
  have typed : ∀ (status : Nat) (type body : String),
      ∀ header ∈ (Response.text status type body).headers, header.1 ≠ "x-request-id" := by
    simp [Response.text]
  unfold respond at h
  split at h
  · next route leads =>
    rcases Routine.Does.catching_cases h with ⟨_, serves, ⟨⟩⟩ | ⟨_, -, -, ⟨⟩⟩
      | ⟨_, _, _, -, -, -, fails⟩
    · cases route with
      | health =>
        cases (Routine.does_pure.1 serves).2
        exact typed _ _ _
      | ready =>
        obtain ⟨answers, -, told⟩ := Routine.Does.of_map serves
        cases answers with
        | ok answers =>
          cases told
          exact typed _ _ _
        | error f => cases told
      | metrics =>
        rcases Routine.Does.bind_cases serves with ⟨_, -, ⟨⟩⟩ | ⟨exposition, _, _, -, -, ends⟩
        cases (Routine.does_pure.1 ends).2
        exact typed _ _ _
      | enter world =>
        rcases Routine.Does.bind_cases serves with ⟨_, -, ⟨⟩⟩ | ⟨credentials, _, _, -, -, checks⟩
        rcases Routine.Does.catching_cases checks with ⟨_, checks, ⟨⟩⟩ | ⟨_, -, -, ⟨⟩⟩
          | ⟨f, _, _, -, -, -, refuses⟩
        · obtain ⟨outcome, -, told⟩ := Routine.Does.of_map checks
          cases outcome with
          | ok matching =>
            cases told
            cases matching <;> exact typed _ _ _
          | error f => cases told
        · cases (Routine.does_pure.1 refuses).2
          exact typed _ _ _
    · cases (Routine.does_throw.1 fails).2
  · cases (Routine.does_pure.1 h).2
    simp [Response.withHeader, Response.detail, Response.json, Response.text]
  · cases (Routine.does_pure.1 h).2
    simp
  · cases (Routine.does_pure.1 h).2
    exact typed _ _ _

/-- A request for the metrics is answered the exposition, unless the monotonic clock cannot be read.
    -/
theorem respond_metrics_run (l : Limiter) (id : String)
    (leads : Destination.of r.method r.path.toList = .route .metrics) (s : System) :
    (respond l id r).run.run 0 s = (s, s.monotonic.map fun now =>
      .text 200 "text/plain; version=0.0.4; charset=utf-8" (s.metrics.exposition now)) := by
  have serves : (serve l id r .metrics).run.run 0 s = (s, s.monotonic.map fun now =>
      .text 200 "text/plain; version=0.0.4; charset=utf-8" (s.metrics.exposition now)) := by
    rw [serve, Routine.run_bind, Routine.run_exposition]
    cases s.monotonic <;> rfl
  unfold respond
  rw [leads]
  cases read : s.monotonic with
  | ok now =>
    rw [read] at serves
    show ((serve l id r .metrics).catching _ _).run.run 0 s = _
    rw [Routine.run_catching_of_ok _ _ (congrArg Prod.snd serves), serves]
    rfl
  | error f =>
    rw [read] at serves
    have ordinary : f.isCancellation = false := by
      rw [System.monotonic] at read
      cases clock : clockSeconds s.elapsed with
      | ok now =>
        rw [clock] at read
        cases read
      | error reason =>
        rw [clock] at read
        cases read
        rfl
    exact Routine.run_catching_of_passed serves ordinary

/-! ## Completions -/

/-- A request that was answered with a response. -/
structure Completion where
  request : Request
  response : Response

namespace Completion

/-- The series that it counts for. -/
def series (c : Completion) : RequestSeries :=
  .of c.request.method c.request.addressPath c.response.status

/-- The line of the log tells of it: of the one id that the response carries, of the request's
    method and path, and of the status. -/
def IsToldBy (c : Completion) (line : LogEntry) : Prop :=
  ∃ id, c.response.headers.filter (·.1 = "x-request-id") = [("x-request-id", id)]
    ∧ line = requestLine id c.request.method c.request.addressPath c.response.status

end Completion

/-- The response that a request is answered with, unless its handling fails. -/
def Event.response? : Event → Option Response
  | .replied ⟨response, none⟩ => some response
  | _ => none

/-- What a step completes: a request that is answered with a response. -/
def Step.completed? : Step → Observation Event → Option Completion
  | .request r, o => o.result.response?.map (Completion.mk r)
  | _, _ => none

/-- What steps complete, in order. -/
def completed (l : Limiter) (s : System) (steps : List Step) : List Completion :=
  (steps.zip (trail l s steps)).filterMap fun (next, o) => next.completed? o

/-- The lines that the service itself logs in the course of steps. -/
def requestLog (l : Limiter) (s : System) (steps : List Step) : List LogEntry :=
  (trail l s steps).flatMap fun o => serviceLines o.logs

theorem completed_cons (l : Limiter) (s : System) (next : Step) (rest : List Step) :
    completed l s (next :: rest) = (next.completed? (observe s (step l next)).2).toList
      ++ completed l (observe s (step l next)).1 rest := by
  simp only [completed, trail, List.zip_cons_cons, List.filterMap_cons]
  cases next.completed? (observe s (step l next)).2 <;> rfl

theorem requestLog_cons (l : Limiter) (s : System) (next : Step) (rest : List Step) :
    requestLog l s (next :: rest) = serviceLines (observe s (step l next)).2.logs
      ++ requestLog l (observe s (step l next)).1 rest := rfl

/-! ## One step -/

/-- The step does not make the service forget its counts. -/
def Step.KeepsCounts : Step → Prop
  | .operate .resetMetrics => False
  | _ => True

/-- These requests were counted from one system to the other, and these lines tell of them. -/
structure Accounted (s s' : System) (done : List Completion) (lines : List LogEntry) : Prop where
  counted : s'.metrics.requests = s.metrics.requests.bumps (done.map Completion.series)
  logged : List.Forall₂ Completion.IsToldBy done lines

theorem Accounted.append {s s₁ s₂ : System} {done rest : List Completion}
    {lines more : List LogEntry} (first : Accounted s s₁ done lines)
    (second : Accounted s₁ s₂ rest more) : Accounted s s₂ (done ++ rest) (lines ++ more) where
  counted := by rw [second.counted, first.counted, List.map_append, Tally.bumps_append]
  logged := List.rel_append first.logged second.logged

/-- A request is accounted for if it is answered with a response, and only then. -/
theorem request_accounted (l : Limiter) (r : Request) (begun : s.logs = []) :
    Accounted s (observe s (step l (.request r))).1
      ((Step.request r).completed? (observe s (step l (.request r))).2).toList
      (serviceLines (observe s (step l (.request r))).2.logs) := by
  obtain ⟨tokens, observed⟩ := observe_request l r s
  have does := Proc.does_doings 0 (respond l (r.idAfter s.tokens) r).run { s with tokens }
  have same := (respond_inner l (r.idAfter s.tokens) r).sameAccount 0 { s with tokens }
  generalize (respond l (r.idAfter s.tokens) r).run.run 0 { s with tokens } = ended
    at observed does same
  obtain ⟨s', outcome⟩ := ended
  have unlogged : serviceLines s'.logs = [] := by
    rw [same.lines]
    show serviceLines s.logs = []
    rw [begun]
    rfl
  rw [observed]
  cases outcome with
  | ok response =>
    refine ⟨congrArg (Tally.bump _) same.requests, ?_⟩
    let line := requestLine (r.idAfter s.tokens) r.method r.addressPath response.status
    have lines : serviceLines (s'.logs ++ [line]) = [line] := by
      rw [serviceLines, List.filter_append, ← serviceLines, unlogged]
      rfl
    have alone : response.headers.filter (·.1 = "x-request-id") = [] := by
      simpa [List.filter_eq_nil_iff] using respond_unlabelled does
    show List.Forall₂ _ _ (serviceLines (s'.logs ++ [line]))
    rw [lines]
    refine .cons ⟨r.idAfter s.tokens, ?_, rfl⟩ .nil
    simp [Response.withHeader, alone]
  | error f =>
    refine ⟨same.requests, ?_⟩
    show List.Forall₂ _ _ (serviceLines s'.logs)
    rw [unlogged]
    exact .nil

/-- **Each step is accounted for.** -/
theorem step_accounted (l : Limiter) {next : Step} (keeps : next.KeepsCounts)
    (begun : s.logs = []) :
    Accounted s (observe s (step l next)).1 (next.completed? (observe s (step l next)).2).toList
      (serviceLines (observe s (step l next)).2.logs) := by
  cases next with
  | request r => exact request_accounted l r begun
  | wait ms =>
    have ran : (step l (.wait ms)).run.run 0 s = (s.wait ms, .ok .nothing) := rfl
    rw [observe_eq ran]
    refine ⟨rfl, ?_⟩
    show List.Forall₂ _ _ (serviceLines s.logs)
    rw [begun]
    exact .nil
  | operate operation =>
    have still : s.wait 0 = s := by simp [System.wait]
    have ran : (step l (.operate operation)).run.run 0 s
        = (operation.apply (s.wait 0), .ok .nothing) := rfl
    rw [still] at ran
    rw [observe_eq ran]
    have kept : (operation.apply s).metrics.requests = s.metrics.requests
        ∧ (operation.apply s).logs = s.logs := by
      cases operation with
      | resetMetrics => exact keeps.elim
      | _ => exact ⟨rfl, rfl⟩
    refine ⟨kept.1, ?_⟩
    show List.Forall₂ _ _ (serviceLines (operation.apply s).logs)
    rw [kept.2, begun]
    exact .nil

/-! ## Whole runs -/

/-- So are all steps of a run. -/
theorem after_accounted (l : Limiter) {steps : List Step}
    (keeps : ∀ next ∈ steps, next.KeepsCounts) (begun : s.logs = []) :
    Accounted s (after l s steps) (completed l s steps) (requestLog l s steps) := by
  induction steps generalizing s with
  | nil => exact ⟨rfl, .nil⟩
  | cons next rest ih =>
    rw [List.forall_mem_cons] at keeps
    have first := step_accounted l keeps.1 begun
    have again : (observe s (step l next)).1.logs = [] := by rw [observe_fst]
    rw [completed_cons, requestLog_cons]
    exact first.append (ih keeps.2 again)

/-- A response to a request for the metrics holds the exposition of the system that the request
    comes upon. -/
theorem metrics_reply (l : Limiter)
    (leads : Destination.of r.method r.path.toList = .route .metrics) (s : System) :
    ∃ reply, (observe s (step l (.request r))).2.result = .replied reply
      ∧ (reply.escaped = none → ∃ clock, s.monotonic = .ok clock
        ∧ reply.response.body = s.metrics.exposition clock) := by
  obtain ⟨tokens, observed⟩ := observe_request l r s
  have same : ({ s with tokens } : System).monotonic = s.monotonic := rfl
  rw [respond_metrics_run l _ leads, same] at observed
  rw [observed]
  cases s.monotonic with
  | ok now => exact ⟨_, rfl, fun _ => ⟨now, rfl, rfl⟩⟩
  | error f => exact ⟨_, rfl, nofun⟩

/-- **Requests are accounted for.** A service starts with no request counted, and its counts are not
    reset. Whatever comes in the way of commands, at every point of the run the counts add up to the
    number of requests that were answered with a response rather than by a failure that escaped; for
    each method, template of a path and class of a status they tell how many of these had them; and
    what the service itself has logged is one line for each of them, in order, with the only id that
    the response carries, the request's method and path, and the status. A request for the metrics
    that is answered with a response is told the exposition of exactly the requests before it: the
    first section of the text that is served has, after a heading, one line for each series that
    these had, with how many had it, and no other. -/
theorem requests_accounted (settings : Settings) {s : System} {steps : List Step}
    (uncounted : s.metrics.requests = []) (keeps : ∀ next ∈ steps, next.KeepsCounts) (i : Nat) :
    let l : Limiter := ⟨settings.limiter, .system⟩
    let now := reached settings s (steps.take i)
    let done := completed l (start settings s).1 (steps.take i)
    now.metrics.requests.total = done.length
      ∧ (∀ series, now.metrics.requests.count series = done.countP (·.series = series))
      ∧ List.Forall₂ Completion.IsToldBy done (requestLog l (start settings s).1 (steps.take i))
      ∧ ∀ r, steps[i]? = some (.request r) →
        Destination.of r.method r.path.toList = .route .metrics →
        ∃ o reply, (trail l (start settings s).1 steps)[i]? = some o ∧ o.result = .replied reply
          ∧ (reply.escaped = none → ∃ clock, now.monotonic = .ok clock
            ∧ reply.response.body = now.metrics.exposition clock
            ∧ (now.metrics.sortedRequests.map (·.1)).Nodup
            ∧ (∀ series n, (series, n) ∈ now.metrics.sortedRequests
              ↔ 0 < n ∧ n = done.countP (·.series = series))
            ∧ Metrics.TellsRequests reply.response.body
              (fun series => done.countP (·.series = series))
              (now.metrics.sortedRequests.map Metrics.requestSample)) := by
  intro l now done
  have begun : (start settings s).1.logs = [] := by rw [start_fst]
  have none : (start settings s).1.metrics.requests = [] := by
    rw [start_fst]
    exact uncounted
  have accounted : Accounted (start settings s).1 now done _ :=
    after_accounted l (fun next hn => keeps next (List.mem_of_mem_take hn)) begun
  have counted : now.metrics.requests = Tally.bumps (done.map Completion.series) [] := by
    rw [accounted.counted, none]
  have counts : ∀ series, now.metrics.requests.count series
      = done.countP (·.series = series) := by
    intro series
    rw [counted, Tally.count_bumps, List.count, List.countP_map]
    exact Nat.zero_add _
  have entries : now.metrics.requests.IsExact := by
    rw [counted]
    exact Tally.IsExact.nil.bumps _
  -- Only what was completed is counted, under the labels that were made for it.
  have templates : ∀ series, 0 < now.metrics.requests.count series → series.IsTemplate := by
    intro series came
    rw [counts, List.countP_pos_iff] at came
    obtain ⟨c, -, same⟩ := came
    rw [← of_decide_eq_true same]
    exact RequestSeries.isTemplate_of ..
  refine ⟨?_, counts, accounted.logged, fun r at_ leads => ?_⟩
  · rw [counted, Tally.total_bumps, List.length_map]
    exact Nat.zero_add _
  · obtain ⟨reply, replied, told⟩ := metrics_reply l leads now
    refine ⟨_, reply, getElem?_trail at_, replied, fun whole => ?_⟩
    obtain ⟨clock, read, body⟩ := told whole
    have sorted : now.metrics.sortedRequests.Perm now.metrics.requests := List.mergeSort_perm _ _
    refine ⟨clock, read, body, (sorted.map _).nodup_iff.2 entries.keys, fun series n => ?_, ?_⟩
    · rw [Metrics.mem_sortedRequests entries, counts]
    · rw [body, ← funext counts]
      exact Metrics.exposition_tells entries templates clock

/-- A store whose first ping fails in a way that nobody handles. -/
def brokenPing : System where
  faults := [{ kind := .ping, action := .fail .runtime "boom" false }]

/-- The service is asked twice whether it is ready, then for a path that it moves, and then for the
    metrics. -/
def probes : List Step :=
  [.request readyRequest, .request readyRequest, .request { readyRequest with path := "/ready/" },
    .request metricsRequest]

/-- Two of the first three requests are answered with a response, and so is that for the metrics,
    which has a line for each of both. -/
theorem requests_accounted_of_probes :
    let now := reached {} brokenPing (probes.take 3)
    now.metrics.requests.total = 2
      ∧ (requestLog ⟨Settings.limiter {}, .system⟩ (start {} brokenPing).1
        (probes.take 3)).length = 2
      ∧ ∃ o reply, (trail ⟨Settings.limiter {}, .system⟩ (start {} brokenPing).1 probes)[3]? = some o
        ∧ o.result = .replied reply
        ∧ "http_requests_total\x7bmethod=\"GET\",path=\"/ready\",status=\"2xx\"\x7d 1"
          ∈ cutLines reply.response.body
        ∧ "http_requests_total\x7bmethod=\"GET\",path=\"/ready\",status=\"3xx\"\x7d 1"
          ∈ cutLines reply.response.body := by
  intro now
  have keeps : ∀ next ∈ probes, next.KeepsCounts := by simp [probes, Step.KeepsCounts]
  have leads : Destination.of metricsRequest.method metricsRequest.path.toList
      = .route .metrics := by decide +kernel
  have series : (completed ⟨Settings.limiter {}, .system⟩ (start {} brokenPing).1
      (probes.take 3)).map Completion.series
      = [⟨"GET", "/ready", "2xx"⟩, ⟨"GET", "/ready", "3xx"⟩] := by decide +kernel
  have statuses : (trail ⟨Settings.limiter {}, .system⟩ (start {} brokenPing).1 probes).map
      (·.result.status?) = [some (500, true), some (200, false), some (307, false),
        some (200, false)] := by decide +kernel
  obtain ⟨total, -, logged, served⟩ :=
    @requests_accounted {} brokenPing probes rfl keeps 3
  obtain ⟨o, reply, found, replied, told⟩ := served metricsRequest rfl leads
  have whole : reply.escaped = none := by
    have last := congrArg (·[3]?) statuses
    simp only [List.getElem?_map, found, Option.map_some, replied, Event.status?] at last
    simpa using congrArg (Option.map (Option.map Prod.snd)) last
  obtain ⟨clock, -, -, -, -, tells⟩ := told whole
  have two := congrArg List.length series
  rw [List.length_map] at two
  have once : ∀ x, (completed ⟨Settings.limiter {}, .system⟩ (start {} brokenPing).1
      (probes.take 3)).countP (·.series = x)
      = [⟨"GET", "/ready", "2xx"⟩, ⟨"GET", "/ready", "3xx"⟩].countP (· = x) := by
    intro x
    rw [← series, List.countP_map]
    rfl
  have methods : ∀ x, 0 < (completed ⟨Settings.limiter {}, .system⟩ (start {} brokenPing).1
      (probes.take 3)).countP (·.series = x) → '\n' ∉ x.method.toList := by
    intro x came
    rw [once, List.countP_pos_iff] at came
    obtain ⟨y, hy, same⟩ := came
    rcases List.mem_pair.1 hy with rfl | rfl <;>
    · rw [← of_decide_eq_true same]
      decide
  obtain ⟨rest, lines⟩ := tells.lines methods
  have served : ∀ x, 0 < [⟨"GET", "/ready", "2xx"⟩, ⟨"GET", "/ready", "3xx"⟩].countP (· = x) →
      Metrics.requestSample (x, [⟨"GET", "/ready", "2xx"⟩, ⟨"GET", "/ready", "3xx"⟩].countP (· = x))
        ∈ cutLines reply.response.body := by
    intro x came
    rw [lines]
    refine List.mem_append_left _ (List.mem_append_right _ ((tells.mem_iff _).2 ⟨x, ?_⟩))
    rw [once]
    exact ⟨came, rfl⟩
  exact ⟨total.trans two, logged.length_eq.symm.trans two, o, reply, found, replied,
    served ⟨"GET", "/ready", "2xx"⟩ (by decide), served ⟨"GET", "/ready", "3xx"⟩ (by decide)⟩

end Service

end Turnstile

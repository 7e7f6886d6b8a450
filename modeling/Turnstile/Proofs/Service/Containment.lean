import Mathlib.Algebra.Group.Int.Defs
import Mathlib.Algebra.Group.Nat.Defs
import Turnstile.Proofs.Limiter.FailOpen
import Turnstile.Proofs.Service.Runs

set_option autoImplicit false

/-! # A store in trouble

However the store fails, and whatever is in it, the service answers each request as it may be
answered (`Service.respond_run`), and the response carries the request's own id or a fresh one
(`Service.handle_run`). So it is throughout a run (`Service.store_trouble_contained`): a fault that
delays a command or makes it fail as the store does leaves only such faults behind. The one request
that cannot be answered is that for the metrics, and only where the monotonic clock cannot be read.
-/

namespace Turnstile

/-! ## What commands are answered -/

namespace Event

/-- A command is not answered a failure, unless that is one of the store's. -/
def FailsAsStore : Event → Prop
  | ⟨_, _, .command _, _, .error f⟩ => f.isStoreError = true
  | _ => True

/-- What is answered to an effect that meets a fault of a store in trouble. -/
theorem failsAsStore_of_admits {v : World} {e : Event} (admits : v.Admits e)
    (store : e.action.StoreOnly) : e.FailsAsStore := by
  unfold FailsAsStore
  split
  · exact store.isStoreError (Eq.symm admits.answer)
  · trivial

end Event

/-- Where only such faults wait for a process that runs alone, its commands fail as the store does,
    and nothing cancels it. -/
theorem Proc.Obeys.contained_doings {α S : Type} {P : Protocol S} {task : Nat}
    {ends : α → S → Prop} {p : Proc α} {stage : S} (hp : p.Obeys P task ends stage) {s : System}
    (store : ∀ f ∈ s.faults, f.action.StoreOnly) :
    ∀ e ∈ p.doings task s, e.FailsAsStore ∧ e.Spares := by
  have perform : FaultAction.perform.StoreOnly := trivial
  intro e he
  obtain ⟨v, admits⟩ := Proc.exists_admits_doings task p s e he
  have action := hp.actions_doings perform store e he
  exact ⟨Event.failsAsStore_of_admits admits action, Event.spares_of_admits admits action.ordinary⟩

/-! ## The way into a world -/

/-- The path of a world leads a request that posts there into the world. -/
theorem Destination.of_entry {world : String} (some : world ≠ "") (single : '/' ∉ world.toList) :
    Destination.of "POST" ("/worlds/" ++ world ++ "/enter").toList = .route (.enter world) := by
  have chars : ("/worlds/" ++ world ++ "/enter").toList
      = "/worlds/".toList ++ world.toList ++ "/enter".toList := by
    simp only [String.toList_append]
  have segment : (world.toList ++ "/enter".toList).takeWhile (· ≠ '/') = world.toList := by
    rw [List.takeWhile_append_of_pos]
    · simp
    · intro c hc
      have : c ≠ '/' := by
        intro same
        rw [same] at hc
        exact single hc
      simpa using this
  have found : Route.worldOf? ("/worlds/".toList ++ world.toList ++ "/enter".toList)
      = .some world.toList := by
    unfold Route.worldOf?
    simp only [List.append_assoc, List.drop_left, segment]
    simp [some]
  have last : ("/worlds/".toList ++ world.toList ++ "/enter".toList).getLast? = .some 'r' := by
    rw [List.getLast?_append]
    rfl
  have other : ∀ path ∈ ["/health".toList, "/ready".toList, "/metrics".toList],
      "/worlds/".toList ++ world.toList ++ "/enter".toList ≠ path := by
    intro path hp same
    have second := congrArg (·[1]?) same
    rw [List.append_assoc] at second
    simp only [List.mem_cons, List.not_mem_nil, or_false] at hp
    rcases hp with rfl | rfl | rfl <;> simp at second
  have route : Route.ofPath? ("/worlds/".toList ++ world.toList ++ "/enter".toList)
      = .some (.enter world) := by
    have whole : ¬Option.some 'r' = Option.some '\n' := by decide
    unfold Route.ofPath?
    simp only [last, if_neg whole, found, Option.map_some, String.ofList_toList]
    rw [if_neg (other _ (by simp)), if_neg (other _ (by simp)), if_neg (other _ (by simp))]
  rw [Destination.of, chars, route]
  rfl

/-! ## Request ids -/

/-- The id of a request that comes when some tokens have been drawn: the one it brings, unless that is
    empty, or else that of the next token. -/
def Request.idAfter (r : Request) (tokens : Nat) : String :=
  match r.header? "x-request-id" with
  | none | some "" => groupedToken (tokens + 1)
  | some id => id

/-- A request that brings no id draws a token. -/
def Request.Draws (r : Request) : Prop :=
  r.header? "x-request-id" = none ∨ r.header? "x-request-id" = some ""

/-- The groups of a token hold its digits. -/
theorem filter_groupedToken (n : Nat) :
    (groupedToken n).toList.filter (· ≠ '-') = (tokenDigits n).take 32 := by
  have digits : ∀ c ∈ tokenDigits n, c ≠ '-' := by
    intro c hc
    obtain ⟨k, hk, rfl⟩ := exists_digitChar_of_mem_tokenDigits hc
    exact (by decide : ∀ k < 16, Nat.digitChar k ≠ '-') k hk
  have group : ∀ start size, ((tokenDigits n).drop start |>.take size).filter (· ≠ '-')
      = ((tokenDigits n).drop start).take size := by
    intro start size
    refine List.filter_eq_self.2 fun c hc => ?_
    simpa using digits c (List.mem_of_mem_drop (List.mem_of_mem_take hc))
  have parts : ∀ cs : List Char, cs.take 32 = (cs.drop 0).take 8 ++ ((cs.drop 8).take 4
      ++ ((cs.drop 12).take 4 ++ ((cs.drop 16).take 4 ++ (cs.drop 20).take 12))) := by
    intro cs
    rw [show 32 = 8 + (4 + (4 + (4 + 12))) from rfl]
    simp only [List.take_add, List.drop_drop, List.drop_zero]
  rw [parts, ← group 0 8, ← group 8 4, ← group 12 4, ← group 16 4, ← group 20 12]
  simp [groupedToken]

/-- Tokens of 32 digits are told apart by their groups. -/
theorem groupedToken_injective {m n : Nat} (hm : m < 16 ^ 32) (hn : n < 16 ^ 32)
    (h : groupedToken m = groupedToken n) : m = n := by
  have whole : ∀ k < 16 ^ 32, (tokenDigits k).take 32 = tokenDigits k := by
    intro k hk
    refine List.take_of_length_le ?_
    rw [tokenDigits, List.length_leftpad]
    exact Nat.max_le.2 ⟨Nat.le_refl _, (Nat.length_toDigits_le_iff (by decide) (by decide)).2 hk⟩
  refine tokenDigits_injective ?_
  rw [← whole m hm, ← whole n hn, ← filter_groupedToken, ← filter_groupedToken, h]

namespace Service

variable {l : Limiter} {r : Request} {s : System}

/-- A request that brings no id is given that of the next token; any other keeps its own. -/
theorem id_cases (r : Request) :
    (r.Draws ∧ r.id = (do return groupedToken (← Routine.freshToken))
        ∧ ∀ n, r.idAfter n = groupedToken (n + 1))
      ∨ ¬r.Draws ∧ ∃ id, r.id = pure id ∧ ∀ n, r.idAfter n = id := by
  unfold Request.Draws
  cases header : r.header? "x-request-id" with
  | none => simp [Request.id, Request.idAfter, header]
  | some id =>
    by_cases empty : id = ""
    · simp [Request.id, Request.idAfter, header, empty]
    · refine .inr ⟨by simpa using empty, id, ?_, fun n => ?_⟩
      · simp [Request.id, header]
      · simp [Request.idAfter, header]

theorem idAfter_of_draws {r : Request} (draws : r.Draws) (n : Nat) :
    r.idAfter n = groupedToken (n + 1) := by
  rcases id_cases r with ⟨-, -, next⟩ | ⟨brings, -⟩
  · exact next n
  · exact absurd draws brings

/-- Requests that bring no id are given different ones, after different numbers of tokens. -/
theorem idAfter_ne {r r' : Request} (draws' : r'.Draws) (draws : r.Draws) {m n : Nat} (lt : m < n)
    (few : n + 1 < 16 ^ 32) : r'.idAfter m ≠ r.idAfter n := by
  rw [idAfter_of_draws draws', idAfter_of_draws draws]
  intro same
  have := groupedToken_injective (Nat.lt_trans (Nat.succ_lt_succ lt) few) few same
  omega

/-- The id of a request takes no time, and nothing but a token if it is a fresh one. -/
theorem id_run (r : Request) (s : System) :
    ∃ tokens, r.id.run.run 0 s = ({ s with tokens }, .ok (r.idAfter s.tokens))
      ∧ (r.Draws → s.tokens < tokens) := by
  rcases id_cases r with ⟨-, same, next⟩ | ⟨brings, id, same, next⟩
  · have still : s.wait 0 = s := by simp [System.wait]
    have drawn : (do return groupedToken (← Routine.freshToken) : Routine String).run.run 0 s
        = ({ s.wait 0 with tokens := (s.wait 0).tokens + 1 },
          .ok (groupedToken ((s.wait 0).tokens + 1))) := rfl
    rw [still] at drawn
    rw [same, next, drawn]
    exact ⟨_, rfl, fun _ => Nat.lt_succ_self _⟩
  · rw [same, next]
    exact ⟨s.tokens, rfl, fun draws => absurd draws brings⟩

/-! ## What is done with a response -/

/-- The line of the log that tells of a response. -/
def requestLine (id method path : String) (status : Nat) : LogEntry :=
  ⟨.info, .app, s!"request_id={id} method={method} path={path} status={status}"⟩

/-- The system with a response counted and logged. -/
def noted (id : String) (r : Request) (response : Response) (s : System) : System :=
  { s with
    metrics := s.metrics.countRequest r.method r.addressPath response.status
    logs := s.logs ++ [requestLine id r.method r.addressPath response.status] }

/-- A response is counted and logged, and sent as it is, with the id of its request. -/
theorem finish_run (id : String) (r : Request) (response : Response) (s : System) :
    (finish id r response).run.run 0 s
      = (noted id r response s, .ok { response := response.withHeader "x-request-id" id }) := by
  have still : ∀ s : System, s.wait 0 = s := by simp [System.wait]
  have finished : (finish id r response).run.run 0 s
      = ({ (s.wait 0).wait 0 with
            metrics := (s.wait 0).metrics.countRequest r.method r.addressPath response.status
            logs := (s.wait 0).logs ++ [requestLine id r.method r.addressPath response.status] },
        .ok { response := response.withHeader "x-request-id" id }) := rfl
  rw [finished, still, still, noted]

/-- A request is handled by what responds to it, once it has its id: a response is noted and sent
    with the id, and a failure escapes. -/
theorem handle_eq (l : Limiter) (r : Request) (s : System) :
    ∃ tokens, (handle l r).run.run 0 s
      = match (respond l (r.idAfter s.tokens) r).run.run 0 { s with tokens } with
        | (s', .ok response) => (noted (r.idAfter s.tokens) r response s',
            .ok { response := response.withHeader "x-request-id" (r.idAfter s.tokens) })
        | (s', .error f) => (s', .ok { response := internalError, escaped := some f }) := by
  obtain ⟨tokens, drawn, -⟩ := id_run r s
  refine ⟨tokens, ?_⟩
  rw [handle, Routine.run_bind, drawn]
  simp only
  rw [Routine.run_bind, Routine.run_observe]
  generalize (respond l (r.idAfter s.tokens) r).run.run 0 { s with tokens } = ended
  obtain ⟨s', outcome⟩ := ended
  cases outcome with
  | ok response => exact finish_run _ _ _ _
  | error f => rfl

/-- What is observed of a request, by what responds to it. -/
theorem observe_request (l : Limiter) (r : Request) (s : System) :
    ∃ tokens, observe s (step l (.request r))
      = match (respond l (r.idAfter s.tokens) r).run.run 0 { s with tokens } with
        | (s', .ok response) => (noted (r.idAfter s.tokens) r response s').observe (.replied
            { response := response.withHeader "x-request-id" (r.idAfter s.tokens) })
        | (s', .error f) => s'.observe (.replied
            { response := internalError, escaped := some f }) := by
  obtain ⟨tokens, handled⟩ := handle_eq l r s
  have ran : (step l (.request r)).run.run 0 s
      = (((handle l r).run.run 0 s).1, ((handle l r).run.run 0 s).2.map .replied) :=
    Routine.run_map _ _ _ _
  refine ⟨tokens, ?_⟩
  rw [handled] at ran
  generalize (respond l (r.idAfter s.tokens) r).run.run 0 { s with tokens } = ended at ran
  obtain ⟨s', outcome⟩ := ended
  cases outcome <;> exact observe_eq ran

/-! ## Answers -/

/-- What a request may be answered, by where it is led. -/
inductive Answers (r : Request) : Destination → Response → Prop where
  | health : Answers r (.route .health) healthy
  | ready (answers : Bool) : Answers r (.route .ready) (readiness answers)
  | metrics (exposition : String) : Answers r (.route .metrics)
      (.text 200 "text/plain; version=0.0.4; charset=utf-8" exposition)
  | admission (world : String) (matching : Bool) :
      Answers r (.route (.enter world)) (admission matching)
  | refusal (world : String) : Answers r (.route (.enter world)) (refusal (.rateLimited world))
  | wrongMethod (allowed : String) : Answers r (.wrongMethod allowed)
      ((Response.detail 405 "Method Not Allowed").withHeader "allow" allowed)
  | moved (path : List Char) : Answers r (.moved path)
      { status := 307, headers := [("location", r.addressOf path)] }
  | nowhere : Answers r .nowhere (.detail 404 "Not Found")

/-- None of them is an internal error, and none has an id yet. -/
theorem Answers.plain {destination : Destination} {response : Response}
    (answers : Answers r destination response) :
    response.status ≠ 500 ∧ ∀ h ∈ response.headers, h.1 ≠ "x-request-id" := by
  cases answers with
  | ready answers => cases answers <;> decide
  | admission world matching => cases matching <;> decide
  | _ =>
    simp [Response.text, Response.json, Response.detail, Response.withHeader, healthy,
      Service.refusal]

/-! ## What the routes come to -/

section

variable {task : Nat} {es : List Turnstile.Event}

/-- A ping comes to yes or no. -/
theorem ping_does {outcome : Except Failure Bool} (h : Cache.ping.Does task es outcome)
    (fails : ∀ e ∈ es, e.FailsAsStore) : ∃ answers, outcome = .ok answers := by
  have pings : ∀ {es : List Turnstile.Event} {x : Except Failure Bool},
      (do return (← Routine.command .ping).truthy : Routine Bool).Does task es x →
      (∀ e ∈ es, e.FailsAsStore) → ∀ f, x = .error f → f.isStoreError = true := by
    rintro es _ h fails f rfl
    rcases Routine.Does.bind_cases h with ⟨_, issues, ⟨⟩⟩ | ⟨_, first, rest, rfl, -, ends⟩
    · obtain ⟨time, action, rfl⟩ := issues.of_command
      exact fails _ List.mem_cons_self
    · cases (Routine.does_pure.1 ends).2
  rcases Routine.Does.catching_cases h with ⟨answers, -, rfl⟩ | ⟨f, does, passed, -⟩
    | ⟨f, first, rest, -, -, -, logs⟩
  · exact ⟨answers, rfl⟩
  · rw [pings does fails f rfl] at passed
    cases passed
  · obtain ⟨_, _, _, _, -, ends⟩ := Routine.Does.ask_cases logs
    exact ⟨false, (Routine.does_pure.1 ends).2⟩

/-- A check tells whether the secret matches, or turns the subject away. -/
theorem check_does {id world subject : String} {plain hashed : Option String}
    {outcome : Except Failure Bool}
    (h : (Guard.check l id world subject (Json.textOrNull plain)
      (Json.textOrNull hashed)).Does task es outcome)
    (fine : ∀ e ∈ es, e.FailsAsStore ∧ e.Spares) :
    (∃ matching, outcome = .ok matching) ∨ outcome = .error (.rateLimited world) := by
  rw [Guard.check_eq] at h
  rcases Routine.Does.bind_cases h with ⟨f, looks, rfl⟩ | ⟨limited, first, rest, rfl, -, goes⟩
  · obtain ⟨_, ⟨⟩⟩ := Limiter.isLimited_does looks fun e he => (fine e he).2
  · have later := fun e he => fine e (List.mem_append_right first he)
    rcases (Guard.afterLook_does goes fun e he => (later e he).2).1 with answered | refused
      | ⟨f, -, before, time, action, other, rfl⟩
    · exact .inl answered
    · exact .inr refused
    · -- The drop of the record would have failed in a way that is not the store's.
      have store : f.isStoreError = true := (later _ (List.mem_append_right _ List.mem_cons_self)).1
      rw [store] at other
      cases other

/-- So what a check comes to for a request admits it or not, or turns it away. -/
theorem admission_does {id world subject : String} {plain hashed : Option String}
    {outcome : Except Failure Response}
    (h : (admission <$> Guard.check l id world subject (Json.textOrNull plain)
      (Json.textOrNull hashed)).Does task es outcome)
    (fine : ∀ e ∈ es, e.FailsAsStore ∧ e.Spares) :
    (∃ matching, outcome = .ok (admission matching)) ∨ outcome = .error (.rateLimited world) := by
  obtain ⟨told, checks, rfl⟩ := Routine.Does.of_map h
  rcases check_does checks fine with ⟨matching, rfl⟩ | rfl
  · exact .inl ⟨matching, rfl⟩
  · exact .inr rfl

/-- A request for a world is answered as it may be. -/
theorem enter_does {id world : String} {plain hashed : Option String}
    (credentials : r.credentials = .ok (Json.textOrNull plain, Json.textOrNull hashed))
    {outcome : Except Failure Response} (h : (enter l id world r).Does task es outcome)
    (fine : ∀ e ∈ es, e.FailsAsStore ∧ e.Spares) :
    ∃ response, outcome = .ok response ∧ Answers r (.route (.enter world)) response := by
  rw [enter, credentials] at h
  rcases Routine.Does.catching_cases h with ⟨response, checks, rfl⟩ | ⟨f, checks, passed, rfl⟩
    | ⟨f, first, rest, rfl, checks, -, ends⟩
  · rcases admission_does checks fine with ⟨matching, told⟩ | told
    · cases told
      exact ⟨_, rfl, .admission world matching⟩
    · cases told
  · rcases admission_does checks fine with ⟨matching, told⟩ | told
    · cases told
    · cases told
      cases passed
  · have before := fun e he => fine e (List.mem_append_left rest he)
    rcases admission_does checks before with ⟨matching, told⟩ | told
    · cases told
    · cases told
      exact ⟨_, (Routine.does_pure.1 ends).2, .refusal world⟩

end

/-- What a request has to be like to be answered: it brings a secret and a hash, be they null, where
    it is for a world, and comes while the monotonic clock can be read, where it is for the metrics. -/
structure Answerable (r : Request) (s : System) : Prop where
  credentials : ∀ world, Destination.of r.method r.path.toList = .route (.enter world) →
    ∃ plain hashed, r.credentials = .ok (Json.textOrNull plain, Json.textOrNull hashed)
  clock : Destination.of r.method r.path.toList = .route .metrics →
    MonotonicReadable s.elapsed

/-- **Every request is answered** while it is only the store that fails. -/
theorem respond_run {id : String} (store : ∀ f ∈ s.faults, f.action.StoreOnly)
    (answerable : Answerable r s) :
    ∃ response, ((respond l id r).run.run 0 s).2 = .ok response
      ∧ Answers r (Destination.of r.method r.path.toList) response := by
  obtain ⟨credentials, clock⟩ := answerable
  unfold respond
  generalize Destination.of r.method r.path.toList = destination at credentials clock ⊢
  cases destination with
  | wrongMethod allowed => exact ⟨_, rfl, .wrongMethod allowed⟩
  | moved path => exact ⟨_, rfl, .moved path⟩
  | nowhere => exact ⟨_, rfl, .nowhere⟩
  | route route =>
    have served : ∃ response, ((serve l id r route).run.run 0 s).2 = .ok response
        ∧ Answers r (.route route) response := by
      cases route with
      | health => exact ⟨_, rfl, .health⟩
      | ready =>
        have does := Proc.does_doings 0 Cache.ping.run s
        obtain ⟨answers, ends⟩ := ping_does does fun e he =>
          ((own_ping 0).contained_doings store e he).1
        refine ⟨_, ?_, .ready answers⟩
        rw [serve, Routine.run_map, ends]
        rfl
      | metrics =>
        obtain ⟨now, monotonic⟩ := System.exists_monotonic (clock rfl)
        refine ⟨_, ?_, .metrics (s.metrics.exposition now)⟩
        rw [serve, Routine.run_bind, Routine.run_exposition, monotonic]
        rfl
      | enter world =>
        obtain ⟨plain, hashed, given⟩ := credentials world rfl
        have does := Proc.does_doings 0 (enter l id world r).run s
        exact enter_does given does
          (Proc.Obeys.contained_doings (own_serve l id r (.enter world) 0) store)
    obtain ⟨response, ends, answers⟩ := served
    refine ⟨response, ?_, answers⟩
    show ((Routine.catching _ _ _).run.run 0 s).2 = _
    rw [Routine.run_catching_of_ok _ _ ends]

/-- **How a request is handled.** No failure escapes, and the answer carries the request's id. -/
theorem handle_run (store : ∀ f ∈ s.faults, f.action.StoreOnly) (answerable : Answerable r s) :
    ∃ response, Answers r (Destination.of r.method r.path.toList) response
      ∧ ((handle l r).run.run 0 s).2
        = .ok { response := response.withHeader "x-request-id" (r.idAfter s.tokens) } := by
  obtain ⟨tokens, handled⟩ := handle_eq l r s
  have answerable' : Answerable r { s with tokens } := ⟨answerable.credentials, answerable.clock⟩
  have responds : ∃ response,
      ((respond l (r.idAfter s.tokens) r).run.run 0 { s with tokens }).2 = .ok response
        ∧ Answers r (Destination.of r.method r.path.toList) response :=
    respond_run store answerable'
  obtain ⟨response, ends, answers⟩ := responds
  refine ⟨response, answers, ?_⟩
  generalize (respond l (r.idAfter s.tokens) r).run.run 0 { s with tokens } = ended at handled ends
  obtain ⟨s', outcome⟩ := ended
  cases ends
  rw [handled]

/-- A request that brings no id leaves fewer tokens to be drawn. -/
theorem lt_tokens_of_draws (draws : r.Draws) :
    s.tokens < (observe s (step l (.request r))).1.tokens := by
  obtain ⟨tokens, drawn, more⟩ := id_run r s
  have later : tokens ≤ ((handle l r).run.run 0 s).1.tokens := by
    rw [handle, Routine.run_bind, drawn]
    exact Proc.tokens_le_run 0 _ { s with tokens }
  rw [observe_fst, step, Routine.run_map]
  exact Nat.lt_of_lt_of_le (more draws) later

/-! ## Whole runs -/

/-- What a request for a world may be answered. But for the name of the world it is the same for all.
    -/
def entryAnswers (world : String) : List Response :=
  [.text 200 "application/json" "\x7b\"ok\":true\x7d",
    .text 401 "application/json" "\x7b\"detail\":\"Invalid secret\"\x7d",
    .detail 429
      ("Too many failed shared-secret attempts for world \"" ++ world ++ "\". Try again later.")]

theorem Answers.mem_entryAnswers {world : String} {response : Response}
    (answers : Answers r (.route (.enter world)) response) : response ∈ entryAnswers world := by
  cases answers with
  | admission world matching =>
    cases matching with
    | true => exact List.mem_cons.2 (.inl (by decide +kernel))
    | false => exact List.mem_cons_of_mem _ (List.mem_cons.2 (.inl (by decide +kernel)))
  | refusal world => simp [entryAnswers, Service.refusal, Failure.message?]

theorem Answers.ready_status {response : Response} (answers : Answers r (.route .ready) response) :
    response.status = 200 ∨ response.status = 503 := by
  cases answers with
  | ready answers => cases answers <;> simp [readiness, Response.json, Response.text]

/-- Faults of a store in trouble are all that waits throughout a run. -/
theorem store_reached {settings : Settings} {steps : List Step}
    (store : ∀ f ∈ s.faults, f.action.StoreOnly)
    (adds : ∀ next ∈ steps, next.Adds FaultAction.StoreOnly) :
    ∀ f ∈ (reached settings s steps).faults, f.action.StoreOnly := by
  have perform : FaultAction.perform.StoreOnly := trivial
  have begins : ∀ f ∈ (start settings s).1.faults, f.action.StoreOnly := by
    rw [start_fst]
    exact store
  exact after_invariant (P := fun s => ∀ f ∈ s.faults, f.action.StoreOnly)
    (fun next hn _ => tame_step perform (adds next hn)) begins

/-- **A store in trouble is contained.** Whatever is stored, and however commands are delayed or fail
    as the store does, no request of a run lets a failure escape or is answered with an internal
    error. One for a world is answered in one of three ways, which tell of nothing but the world; one
    for readiness is answered yes or no. Every answer carries one id, which is that of the request,
    or else one that no earlier request was given. Requests for a world bring a secret and a hash,
    be they null, and the monotonic clock can be read when one for the metrics comes. -/
theorem store_trouble_contained (settings : Settings) {s : System} {steps : List Step}
    (store : ∀ f ∈ s.faults, f.action.StoreOnly)
    (adds : ∀ next ∈ steps, next.Adds FaultAction.StoreOnly) {i : Nat} {r : Request}
    (at_ : steps[i]? = some (.request r))
    (answerable : Answerable r (reached settings s (steps.take i))) :
    let id := r.idAfter (reached settings s (steps.take i)).tokens
    ∃ o reply, (trail ⟨settings.limiter, .system⟩ (start settings s).1 steps)[i]? = some o
      ∧ o.result = .replied reply ∧ reply.escaped = none ∧ reply.response.status ≠ 500
      ∧ (∀ world, Destination.of r.method r.path.toList = .route (.enter world) →
        ∃ answer ∈ entryAnswers world, reply.response = answer.withHeader "x-request-id" id)
      ∧ (Destination.of r.method r.path.toList = .route .ready →
        reply.response.status = 200 ∨ reply.response.status = 503)
      ∧ reply.response.headers.filter (·.1 = "x-request-id") = [("x-request-id", id)]
      ∧ (r.Draws → (reached settings s (steps.take i)).tokens + 1 < 16 ^ 32 →
        ∀ (j : Nat) (r' : Request), j < i → steps[j]? = some (.request r') → r'.Draws →
          r'.idAfter (reached settings s (steps.take j)).tokens ≠ id) := by
  intro id
  have waits : ∀ f ∈ (reached settings s (steps.take i)).faults, f.action.StoreOnly :=
    store_reached store fun next hn => adds next (List.mem_of_mem_take hn)
  obtain ⟨response, answers, ends⟩ := handle_run (l := ⟨settings.limiter, .system⟩) waits answerable
  let reply : Reply := { response := response.withHeader "x-request-id" id }
  have replied : ((step ⟨settings.limiter, .system⟩ (.request r)).run.run 0
      (reached settings s (steps.take i))).2 = .ok (.replied reply) := by
    rw [step, Routine.run_map, ends]
    rfl
  obtain ⟨whole, unlabelled⟩ := answers.plain
  refine ⟨_, reply, getElem?_trail at_, observe_result replied, rfl, whole, ?_, ?_, ?_, ?_⟩
  · intro world leads
    rw [leads] at answers
    exact ⟨response, answers.mem_entryAnswers, rfl⟩
  · intro leads
    rw [leads] at answers
    exact answers.ready_status
  · have none : response.headers.filter (·.1 = "x-request-id") = [] := by
      simpa [List.filter_eq_nil_iff] using unlabelled
    simp [reply, Response.withHeader, none]
  · intro draws few j r' before at_' draws'
    refine idAfter_ne draws' draws ?_ few
    have more := lt_tokens_of_draws (l := ⟨settings.limiter, .system⟩)
      (s := reached settings s (steps.take j)) draws'
    rw [reached, ← after_take_succ at_'] at more
    exact Nat.lt_of_lt_of_le more (tokens_le_take before)

/-- The status of the answer that a step came to, and whether a failure escaped. -/
def Event.status? : Event → Option (Nat × Bool)
  | .replied reply => some (reply.response.status, reply.escaped.isSome)
  | _ => none

/-- A request for readiness, one for a world that brings no secret, and one for the metrics. -/
def readyRequest : Request := { host := "oracle", path := "/ready" }

def entryRequest : Request :=
  { method := "POST", host := "oracle", path := "/worlds/w/enter", client := some "10.0.0.1",
    body := some (.object [("secret", .null)]) }

def metricsRequest : Request := { host := "oracle", path := "/metrics" }

/-- A record that is no JSON text, in a store that sets no lock's entry without failing and answers no
    ping. -/
def outage : System where
  store := ⟨[(attemptsKey "w" "10.0.0.1", ⟨"\x7bnot json", none⟩)]⟩
  faults := [{ kind := .setIfAbsent, times := 0, action := .fail .connection "down" true },
    { kind := .ping, times := 0, latency := 50, action := .fail .timeout "late" false }]

/-- The service is asked whether it is ready, and then to let someone enter. -/
def outageSteps : List Step := [.request readyRequest, .request entryRequest]

/-- The request for a world is answered that the secret is wrong, with the second id of the run. -/
theorem store_trouble_contained_of_outage :
    ∃ o reply, (trail ⟨Settings.limiter {}, .system⟩ (start {} outage).1 outageSteps)[1]? = some o
      ∧ o.result = .replied reply ∧ reply.escaped = none
      ∧ reply.response
        = (Response.text 401 "application/json" "\x7b\"detail\":\"Invalid secret\"\x7d").withHeader
          "x-request-id" "00000000-0000-0000-0000-000000000002" := by
  have store : ∀ f ∈ outage.faults, f.action.StoreOnly := by
    simp [outage, FaultAction.StoreOnly, ErrorClass.isStoreError]
  have adds : ∀ next ∈ outageSteps, next.Adds FaultAction.StoreOnly := by
    simp [outageSteps, Step.Adds]
  have leads : Destination.of entryRequest.method entryRequest.path.toList
      = .route (.enter "w") := Destination.of_entry (show "w" ≠ "" by decide) (by decide)
  have answerable : Answerable entryRequest (reached {} outage (outageSteps.take 1)) := by
    refine ⟨fun world _ => ⟨none, none, rfl⟩, fun route => ?_⟩
    rw [leads] at route
    cases route
  have second : entryRequest.idAfter (reached {} outage (outageSteps.take 1)).tokens
      = "00000000-0000-0000-0000-000000000002" := by decide +kernel
  have statuses : (trail ⟨Settings.limiter {}, .system⟩ (start {} outage).1 outageSteps).map
      (·.result.status?) = [some (503, false), some (401, false)] := by decide +kernel
  obtain ⟨o, reply, found, replied, whole, -, entry, -⟩ :=
    store_trouble_contained {} store adds (rfl : outageSteps[1]? = _) answerable
  obtain ⟨answer, one, response⟩ := entry "w" leads
  rw [second] at response
  have status : answer.status = 401 := by
    have told := congrArg (·[1]?) statuses
    simp only [List.getElem?_map, found, Option.map_some, replied, Event.status?, response] at told
    have both : answer.status = 401 ∧ reply.escaped = none := by
      simpa [Response.withHeader] using told
    exact both.1
  refine ⟨o, reply, found, replied, whole, ?_⟩
  rw [response]
  simp only [entryAnswers, List.mem_cons, List.not_mem_nil, or_false] at one
  rcases one with rfl | rfl | rfl
  · cases status
  · rfl
  · cases status

/-- A store that answers a ping after a time beyond the range of the monotonic clock. -/
def stalled : System where
  faults := [{ kind := .ping, latency := 10 ^ 400 }]

/-- The request for the metrics that comes next is answered with an internal error. -/
theorem metrics_unanswered :
    (∀ f ∈ stalled.faults, f.action.StoreOnly)
      ∧ (trail ⟨Settings.limiter {}, .system⟩ (start {} stalled).1
          [.request readyRequest, .request metricsRequest]).map (·.result.status?)
        = [some (200, false), some (500, true)] := by
  refine ⟨fun f hf => ?_, by decide +kernel⟩
  rw [List.mem_singleton.1 hf]
  trivial

end Service

end Turnstile

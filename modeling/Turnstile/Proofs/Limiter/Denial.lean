import Turnstile.Proofs.Limiter.Origins
import Turnstile.Proofs.Limiter.Regime

set_option autoImplicit false

/-! # No false denial

Whatever delays and failures commands meet, however calls interleave and whatever else becomes of
the system, a subject is turned away only for attempts that were recorded: when a call answers that
the cap is reached, as many other calls had recorded timestamps in its window before it read the
record, and the record had not run out.

The invariant follows a record's timestamps from the calls that wrote them, through the store, to
the calls that read them. -/

namespace Turnstile

/-! ## What a call has seen -/

/-- A task has written nothing under a key so far. -/
def Unwritten (key : String) (h : List Event) (i : Nat) : Prop :=
  ∀ e ∈ h, e.task = i → e.put? key = none

/-- The last time that a task read its limiter's clock, the clock showed `now`. -/
def LastRead (l : Limiter) (h : List Event) (i : Nat) (now : Int) : Prop :=
  ∃ before r after, h = before ++ r :: after ∧ r.task = i ∧ r.effect = .clock l.clock
    ∧ r.reading? = some now ∧ ∀ x ∈ after, x.task = i → x.reading? = none

/-- The last time that a task read under a key was `g`, after these events. -/
def LastLook (key : String) (h : List Event) (i : Nat) (before : List Event) (g : Event) : Prop :=
  ∃ after, h = before ++ g :: after ∧ g.task = i ∧ g.effect = .command (.get key)
    ∧ ∀ x ∈ after, x.task = i → x.effect ≠ .command (.get key)

/-- The event reads no clock, and neither reads nor writes under a key. -/
structure Event.Aside (key : String) (e : Event) : Prop where
  put : e.put? key = none
  reading : e.reading? = none
  effect : e.effect ≠ .command (.get key)

/-- At an instant, a value is what may be found under a key: nothing, or a record of timestamps that
    different tasks recorded and that has not run out. -/
def Found (key : String) (h : List Event) (instant : Int) (value : Json) : Prop :=
  value = .null ∨ ∃ pairs, Recorders key h pairs ∧ value = Window.record (pairs.map (·.2))
    ∧ ∃ time ttl, LastPut key h time ttl ∧ instant < time + ttl * 1000

/-- A task has last read a value under a key. -/
def Seen (key : String) (h : List Event) (i : Nat) (value : Json) : Prop :=
  ∃ before g, LastLook key h i before g ∧ Found key before g.time value

/-- A task was right to find the cap reached: before it last read the record, as many other tasks
    had recorded timestamps that lie in the window ending at its last clock reading, and the last
    write had not run out. -/
def Justified (key : String) (l : Limiter) (h : List Event) (i : Nat) : Prop :=
  ∃ before g now, LastLook key h i before g ∧ LastRead l h i now
    ∧ (∃ pairs, Recorders key before pairs ∧ l.config.cap ≤ pairs.length
        ∧ ∀ w ∈ pairs, w.1 ≠ i ∧ Window.start now l.config.windowSeconds < w.2)
    ∧ ∃ time ttl, LastPut key before time ttl ∧ g.time < time + ttl * 1000

section

variable {key : String} {l : Limiter} {h : List Event} {i : Nat}

theorem Unwritten.append (u : Unwritten key h i) {e : Event}
    (put : e.task = i → e.put? key = none) : Unwritten key (h ++ [e]) i := by
  intro x hx task
  rcases List.mem_append.1 hx with hx | hx
  · exact u x hx task
  · rw [List.mem_singleton.1 hx] at task ⊢
    exact put task

/-- A task that has written nothing is none of those that recorded a timestamp. -/
theorem Unwritten.ne_of_recorded (u : Unwritten key h i) {task : Nat} {stamp : Int}
    (r : Recorded key h task stamp) : task ≠ i := by
  rintro rfl
  obtain ⟨e, he, htask, earlier, ttl, put⟩ := r
  rw [u e he htask] at put
  cases put

/-- A task that has written nothing puts a record to which it adds a timestamp of its own. -/
theorem Recorders.written {pairs : List (Nat × Int)} (recorders : Recorders key h pairs)
    {e : Event} (unwritten : Unwritten key h e.task) {now : Int}
    (fit : (Window.record (pairs.map (·.2) ++ [now])).integersFit) {ttl : Int}
    (put : e.put? key
      = some ((Window.record (pairs.map (·.2) ++ [now])).write .stored, ttl)) :
    Written key (h ++ [e]) ⟨(Window.record (pairs.map (·.2) ++ [now])).write .stored,
      some (e.time + ttl * 1000)⟩ := by
  have recorded : Recorded key (h ++ [e]) e.task now :=
    ⟨e, List.mem_append_right _ (List.mem_singleton_self _), rfl, _, _, put⟩
  refine ⟨⟨pairs ++ [(e.task, now)], ⟨?_, ?_⟩, ?_, ?_⟩, e.time, ttl, .last h put, rfl⟩
  · rw [List.map_append, List.nodup_append]
    refine ⟨recorders.nodup, by simp, ?_⟩
    intro i hi j hj
    obtain ⟨w, hw, rfl⟩ := List.mem_map.1 hi
    rw [show j = e.task by simpa using hj]
    exact unwritten.ne_of_recorded (recorders.recorded w hw)
  · intro w hw
    rcases List.mem_append.1 hw with hw | hw
    · exact (recorders.recorded w hw).append [e]
    · rw [List.mem_singleton.1 hw]
      exact recorded
  · rw [List.map_append]
    exact fit
  · rw [List.map_append]
    rfl

theorem LastRead.append {now : Int} (read : LastRead l h i now) {e : Event}
    (other : e.task = i → e.reading? = none) : LastRead l (h ++ [e]) i now := by
  obtain ⟨before, r, after, rfl, task, effect, reading, last⟩ := read
  refine ⟨before, r, after ++ [e], by simp, task, effect, reading, ?_⟩
  exact List.forall_mem_append.2 ⟨last, List.forall_mem_singleton.2 other⟩

theorem LastRead.here (h : List Event) {now : Int} {e : Event} (effect : e.effect = .clock l.clock)
    (reading : e.reading? = some now) : LastRead l (h ++ [e]) e.task now :=
  ⟨h, e, [], rfl, rfl, effect, reading, by simp⟩

theorem LastLook.append {before : List Event} {g : Event} (look : LastLook key h i before g)
    {e : Event} (other : e.task = i → e.effect ≠ .command (.get key)) :
    LastLook key (h ++ [e]) i before g := by
  obtain ⟨after, rfl, task, effect, last⟩ := look
  refine ⟨after ++ [e], by simp, task, effect, ?_⟩
  exact List.forall_mem_append.2 ⟨last, List.forall_mem_singleton.2 other⟩

theorem LastLook.here (h : List Event) {g : Event} (effect : g.effect = .command (.get key)) :
    LastLook key (h ++ [g]) g.task h g :=
  ⟨[], rfl, rfl, effect, by simp⟩

theorem Seen.append {value : Json} (seen : Seen key h i value) {e : Event}
    (other : e.task = i → e.effect ≠ .command (.get key)) : Seen key (h ++ [e]) i value := by
  obtain ⟨before, g, look, found⟩ := seen
  exact ⟨before, g, look.append other, found⟩

theorem Justified.append (j : Justified key l h i) {e : Event} (aside : e.task = i → e.Aside key) :
    Justified key l (h ++ [e]) i := by
  obtain ⟨before, g, now, look, read, rest⟩ := j
  exact ⟨before, g, now, look.append fun task => (aside task).effect,
    read.append fun task => (aside task).reading, rest⟩

/-- Of what was found, the timestamps that a window keeps were recorded by different tasks; where
    there are any, the record had not run out. -/
theorem Found.recent {instant : Int} {value : Json} (found : Found key h instant value) {now : Int}
    {recent : List Int} (hr : l.recent value now = .ok recent) :
    ∃ pairs, Recorders key h pairs ∧ recent = pairs.map (·.2)
      ∧ (∀ w ∈ pairs, Window.start now l.config.windowSeconds < w.2)
      ∧ (recent ≠ [] → ∃ time ttl, LastPut key h time ttl ∧ instant < time + ttl * 1000) := by
  rcases found with rfl | ⟨pairs, recorders, rfl, last⟩
  · have none : recent = [] := by simpa [Limiter.recent, Window.recent, Window.attempts_null,
      Window.later] using hr.symm
    exact ⟨[], ⟨by simp, by simp⟩, none, by simp, fun h => absurd none h⟩
  · have kept := Window.eq_of_recent_record hr
    refine ⟨pairs.filter (fun w => Window.start now l.config.windowSeconds < w.2),
      ⟨?_, ?_⟩, ?_, ?_, fun _ => last⟩
    · exact recorders.nodup.sublist (List.filter_sublist.map _)
    · exact fun w hw => recorders.recorded w (List.mem_of_mem_filter hw)
    · rw [kept, List.filter_map]
      rfl
    · exact fun w hw => of_decide_eq_true (List.mem_filter.1 hw).2

/-- A task that finds the cap reached is right to. -/
theorem Justified.of_recent (cap : 1 ≤ l.config.cap) {before : List Event} {g : Event}
    (look : LastLook key h i before g) {now : Int} (read : LastRead l h i now) (unwritten : Unwritten key h i) {value : Json}
    (found : Found key before g.time value) {recent : List Int}
    (hr : l.recent value now = .ok recent) (reached : l.capReached recent) :
    Justified key l h i := by
  obtain ⟨pairs, recorders, rfl, inWindow, last⟩ := found.recent hr
  rw [Limiter.capReached, decide_eq_true_eq, List.length_map] at reached
  have some : pairs.map (·.2) ≠ [] := by
    intro none
    have := congrArg List.length none
    rw [List.length_map, List.length_nil] at this
    omega
  refine ⟨before, g, now, look, read, ⟨pairs, recorders, reached, ?_⟩, last some⟩
  intro w hw
  have recorded : Recorded key h w.1 w.2 := by
    obtain ⟨after, rfl, -⟩ := look
    exact (recorders.recorded w hw).append _
  exact ⟨unwritten.ne_of_recorded recorded, inWindow w hw⟩

/-- An honest reply to a read is read as nothing, or as what the text of the entry is read as. -/
theorem valueOf_of_reply {v : World} {action : FaultAction} (honest : action.Honest)
    {reply : Except Failure Json} (answer : reply = (action.apply v.now v.store (.get key)).2)
    {value : Json} (hv : reply.bind Cache.valueOf = .ok value) :
    value = .null
      ∨ ∃ e, v.store.get? v.now key = some e ∧ Cache.valueOf (.text e.value) = .ok value := by
  rcases FaultAction.get_answer honest v.now v.store key with get | ⟨cls, message, failed⟩
  · rw [answer, get, Command.perform] at hv
    split at hv
    · next e he => exact .inr ⟨e, he, hv⟩
    · simp only [Except.bind, Cache.valueOf_null, Except.ok.injEq] at hv
      exact .inl hv.symm
  · rw [answer, failed] at hv
    cases hv

/-- The stored record is nothing, or what the reply to the read is read as. -/
theorem Site.stored_eq_ok {reply : Except Failure Json} {value : Json}
    (hv : Site.stored reply = .ok value) :
    value = .null ∨ reply.bind Cache.valueOf = .ok value := by
  rw [Site.stored] at hv
  split at hv
  · next found hf =>
    cases hv
    exact .inr hf
  · split at hv
    · cases hv
      exact .inl rfl
    · cases hv

/-- What a read finds, whatever comes in its way. -/
theorem Found.of_reply {v : World} {reply : Except Failure Json}
    (entry : ∀ e, v.store.get? v.now key = some e → Written key v.history e)
    {action : FaultAction} (honest : action.Honest)
    (answer : reply = (action.apply v.now v.store (.get key)).2) {value : Json}
    (hv : reply.bind Cache.valueOf = .ok value) : Found key v.history v.now value := by
  rcases valueOf_of_reply honest answer hv with none | ⟨e, he, text⟩
  · exact .inl none
  · obtain ⟨⟨pairs, recorders, fit, written⟩, time, ttl, last, expiry⟩ := entry e he
    rw [written, Cache.valueOf_record fit, Except.ok.injEq] at text
    have live := (Option.filter_eq_some_iff.1 he).2
    rw [Entry.isLive, expiry] at live
    exact .inr ⟨pairs, recorders, text.symm, time, ttl, last, of_decide_eq_true live⟩

/-- The stored record by what a read finds. -/
theorem Found.of_stored {v : World} {reply : Except Failure Json}
    (entry : ∀ e, v.store.get? v.now key = some e → Written key v.history e)
    {action : FaultAction} (honest : action.Honest)
    (answer : reply = (action.apply v.now v.store (.get key)).2) {value : Json}
    (hv : Site.stored reply = .ok value) : Found key v.history v.now value := by
  rcases Site.stored_eq_ok hv with none | found
  · exact .inl none
  · exact .of_reply entry honest answer found

/-! ## What a stage tells -/

/-- What a phase tells of what its call has seen and done. -/
def PhaseTraced (key : String) (l : Limiter) (h : List Event) (i : Nat) : Phase → Prop
  | .granted | .begun _ => Unwritten key h i
  | .timed _ now => Unwritten key h i ∧ LastRead l h i now
  | .room _ _ recent => Unwritten key h i
      ∧ ∃ pairs, Recorders key h pairs ∧ recent = pairs.map (·.2)
  | .ready timestamps => Unwritten key h i ∧ (Window.record timestamps).integersFit
      ∧ ∃ pairs now, Recorders key h pairs ∧ timestamps = pairs.map (·.2) ++ [now]
  | .written => True
  | .closing outcome => outcome = .ok true → Justified key l h i

/-- What a stage tells of what its call has seen and done. -/
def StageTraced (key : String) (l : Limiter) (h : List Event) (i : Nat) : Stage → Prop
  | .delayed | .idle | .trying .. => Unwritten key h i
  | .looked value => Unwritten key h i ∧ Seen key h i value
  | .weighed limited => Unwritten key h i ∧ (limited → Justified key l h i)
  | .dropped => True
  | .inside _ phase => PhaseTraced key l h i phase
  | .finished outcome => outcome = .ok true → Justified key l h i
  | .failed f => ∀ world, f ≠ .rateLimited world

theorem PhaseTraced.append {phase : Phase} (traced : PhaseTraced key l h i phase) {e : Event}
    (aside : e.task = i → e.Aside key) : PhaseTraced key l (h ++ [e]) i phase := by
  have keep : Unwritten key h i → Unwritten key (h ++ [e]) i :=
    fun unwritten => unwritten.append fun task => (aside task).put
  cases phase with
  | granted | begun => exact keep traced
  | timed => exact ⟨keep traced.1, traced.2.append fun task => (aside task).reading⟩
  | room =>
    obtain ⟨unwritten, pairs, recorders, rfl⟩ := traced
    exact ⟨keep unwritten, pairs, recorders.append [e], rfl⟩
  | ready =>
    obtain ⟨unwritten, fit, pairs, now, recorders, rfl⟩ := traced
    exact ⟨keep unwritten, fit, pairs, now, recorders.append [e], rfl⟩
  | written => trivial
  | closing => exact fun yes => (traced yes).append aside

/-- What a stage tells stays true until its call goes on. -/
theorem StageTraced.append {stage : Stage} (traced : StageTraced key l h i stage) {e : Event}
    (aside : e.task = i → e.Aside key) : StageTraced key l (h ++ [e]) i stage := by
  have keep : Unwritten key h i → Unwritten key (h ++ [e]) i :=
    fun unwritten => unwritten.append fun task => (aside task).put
  cases stage with
  | delayed | idle | trying => exact keep traced
  | looked => exact ⟨keep traced.1, traced.2.append fun task => (aside task).effect⟩
  | weighed => exact ⟨keep traced.1, fun yes => (traced.2 yes).append aside⟩
  | dropped => trivial
  | inside => exact PhaseTraced.append traced aside
  | finished => exact fun yes => (traced yes).append aside
  | failed => exact traced

/-- A look that failed leaves nothing to be justified. -/
theorem StageTraced.unseen (unwritten : Unwritten key h i) (f : Failure) :
    StageTraced key l h i (.unseen f) := by
  rw [Stage.unseen]
  split
  · next cancelled =>
    rintro world rfl
    cases cancelled
  · exact ⟨unwritten, fun no => by cases no⟩

theorem ne_rateLimited_of_raised {f : Failure} (h : ∃ cls message, f = .raised cls message)
    (world : String) : f ≠ .rateLimited world := by
  obtain ⟨cls, message, rfl⟩ := h
  simp

end

/-! ## One step -/

section

variable {p : Site} {key : String} {v : World} {e : Event} {stage stage' : Stage}

/-- What a look weighs tells of calls that recorded, if it turns its subject away. -/
theorem traced_weigh (cap : 1 ≤ p.limiter.config.cap) (hkey : p.key = key) {value : Json}
    {time : Int} {task : Nat} {action : FaultAction} {reading : Except Failure Int}
    (traced : StageTraced key p.limiter v.history task (.looked value)) :
    StageTraced key p.limiter
      (v.add ⟨time, task, .clock p.limiter.clock, action, reading⟩).history task
      (p.weigh value reading) := by
  subst hkey
  obtain ⟨unwritten, seen⟩ := traced
  have unwritten' : Unwritten p.key
      (v.add ⟨time, task, .clock p.limiter.clock, action, reading⟩).history task :=
    unwritten.append fun _ => rfl
  rw [Site.weigh]
  cases reading with
  | error f => exact StageTraced.unseen unwritten' f
  | ok now =>
    cases hr : p.limiter.recent value now with
    | error f =>
      simp only [Except.bind, hr]
      exact StageTraced.unseen unwritten' f
    | ok recent =>
      simp only [Except.bind, hr]
      refine ⟨unwritten', fun reached => ?_⟩
      have read : LastRead p.limiter (v.add ⟨time, task, .clock p.limiter.clock, action,
          .ok now⟩).history task now := LastRead.here v.history rfl rfl
      obtain ⟨before, g, look, found⟩ := seen
      exact Justified.of_recent cap (look.append (by simp)) read unwritten' found hr reached

/-- What a call finds under its lock tells of calls that recorded. -/
theorem traced_judge (cap : 1 ≤ p.limiter.config.cap) (hkey : p.key = key)
    (entry : ∀ entry, v.store.get? v.now key = some entry → Written key v.history entry)
    {hold : Hold} {acquired : Binary64} {now : Int} {task : Nat} {action : FaultAction}
    {reply : Except Failure Json}
    (traced : StageTraced key p.limiter v.history task (.inside hold (.timed acquired now)))
    (answer : v.Answers action (.command (.get p.key)) reply) (honest : action.Honest) :
    StageTraced key p.limiter
      (v.add ⟨v.now, task, .command (.get p.key), action, reply⟩).history task
      (.inside hold (p.judge acquired now reply)) := by
  subst hkey
  obtain ⟨unwritten, read⟩ := traced
  have unwritten' : Unwritten p.key
      (v.add ⟨v.now, task, .command (.get p.key), action, reply⟩).history task :=
    unwritten.append fun _ => rfl
  show PhaseTraced _ _ _ _ (p.judge acquired now reply)
  rw [Site.judge]
  cases hv : Site.stored reply with
  | error f => exact fun no => by cases no
  | ok value =>
    have found := Found.of_stored entry honest answer hv
    cases hr : p.limiter.recent value now with
    | error f =>
      simp only [Except.bind, hr]
      exact fun no => by cases no
    | ok recent =>
      simp only [Except.bind, hr]
      split
      · next reached =>
        intro _
        exact Justified.of_recent cap (LastLook.here v.history rfl) (read.append fun _ => rfl)
          unwritten' found hr reached
      · obtain ⟨pairs, recorders, rfl, -, -⟩ := found.recent hr
        exact ⟨unwritten', pairs, recorders.append _, rfl⟩

/-- A step keeps what is known of the call that takes it. -/
theorem traced_step (cap : 1 ≤ p.limiter.config.cap) (hkey : p.key = key)
    (entry : ∀ entry, v.store.get? v.now key = some entry → Written key v.history entry)
    (traced : StageTraced key p.limiter v.history e.task stage) (admits : v.Admits e)
    (honest : e.action.Honest) (step : p.Step stage e stage') :
    StageTraced key p.limiter (v.add e).history e.task stage' := by
  obtain ⟨htime, answer⟩ := admits
  subst hkey
  -- A step that writes nothing leaves its call among those that have not written.
  have keep : Unwritten p.key v.history e.task → e.put? p.key = none →
      Unwritten p.key (v.add e).history e.task := fun u put => u.append fun _ => put
  cases step with
  | log | count | pause => exact traced.append fun _ => ⟨rfl, rfl, by simp⟩
  | wait => exact keep traced rfl
  | @look may time task action reply =>
    cases htime
    rw [Site.seen]
    split
    · next value hv =>
      exact ⟨keep traced rfl, v.history, _, LastLook.here v.history rfl,
        .of_reply entry honest answer hv⟩
    · exact StageTraced.unseen (keep traced rfl) _
  | weigh => exact traced_weigh cap rfl traced
  | @drop stage may isOpen time task action reply =>
    rw [Site.dropped.eq_def]
    split
    · trivial
    · next f =>
      split
      · trivial
      · exact ne_rateLimited_of_raised (FaultAction.error_answer answer.symm)
  | @draw stage may isOpen time task token action =>
    cases stage with
    | idle => exact keep traced rfl
    | weighed limited => exact keep traced.1 rfl
    | _ => cases isOpen
  | @contend token again time task action reply =>
    cases reply with
    | ok reply =>
      rw [Site.tried]
      split <;> exact keep traced rfl
    | error f =>
      rw [Site.tried]
      split
      · exact keep traced rfl
      · exact ne_rateLimited_of_raised (FaultAction.error_answer answer.symm)
  | @handle hold time task action reading =>
    cases reading with
    | ok acquired => exact keep traced rfl
    | error f =>
      rintro world rfl
      obtain ⟨_, no⟩ := World.Admits.reading_error ⟨htime, answer⟩
      cases no
  | @time hold acquired time task action reading =>
    cases reading with
    | ok now => exact ⟨keep traced rfl, LastRead.here v.history rfl rfl⟩
    | error f => exact fun no => by cases no
  | judge =>
    cases htime
    exact traced_judge cap rfl entry traced answer honest
  | @prepare hold acquired now time recent task action reading =>
    obtain ⟨unwritten, pairs, recorders, rfl⟩ := traced
    show PhaseTraced _ _ _ _ (p.prepare acquired (pairs.map (·.2) ++ [now]) reading)
    fun_cases Site.prepare p acquired (pairs.map (·.2) ++ [now]) reading with
    | case2 later _ fit =>
      exact ⟨keep unwritten rfl, fit, pairs, now, recorders.append _, rfl⟩
    | _ => exact fun no => by cases no
  | @write hold timestamps time task action reply =>
    show PhaseTraced _ _ _ _ (Site.kept reply)
    fun_cases Site.kept reply with
    | case1 => trivial
    | _ => exact fun no => by cases no
  | allow => exact fun no => by cases no
  | @release hold outcome time task action reply =>
    intro yes
    have same : outcome = .ok true := by
      cases reply with
      | ok reply => exact yes
      | error f =>
        rw [Site.released] at yes
        split at yes
        · exact yes
        · cases yes
    exact (traced same).append fun _ => ⟨rfl, rfl, by simp⟩

/-- Only a call that has read the record writes one. -/
theorem ready_of_put {text : String} {ttl : Int} (step : p.Step stage e stage')
    (put : e.put? key = some (text, ttl)) :
    p.key = key ∧ ttl = p.keep ∧ ∃ hold timestamps, stage = .inside hold (.ready timestamps)
      ∧ text = (Window.record timestamps).write .stored := by
  cases step with
  | @write hold timestamps =>
    simp only [Event.put?] at put
    split at put
    · next h =>
      simp only [Option.some.injEq, Prod.mk.injEq] at put
      exact ⟨h.1, put.2.symm, hold, timestamps, rfl, put.1.symm⟩
    · cases put
  | _ => simp [Event.put?] at put

/-- Only a call that has drawn a token touches its lock. -/
theorem noLock_of_step (step : p.Step stage e stage')
    (lock : stage.token? ≠ none → p.lock ≠ key) : e.NoLock key := by
  rintro k value rfl
  cases step with
  | contend | release =>
    have other := lock (by simp [Stage.token?])
    constructor <;> simp [other]
  | _ => simp

/-- A token is drawn by a call that may record. -/
theorem records_of_token (step : p.Step stage e stage') (h : stage.token? ≠ none → p.records)
    (token : stage'.token? ≠ none) : p.records := by
  cases step with
  | draw may => exact may
  | look => simp [Site.hold?_seen] at token
  | weigh => simp [Site.hold?_weigh] at token
  | drop => simp [Site.hold?_dropped] at token
  | wait | release => simp [Stage.token?] at token
  | log | count => exact h token
  | _ => exact h (by simp [Stage.token?])

end

/-! ## The run -/

/-- The surroundings do as they like, except that time does not go back, that they leave the entry
    under a key alone, and that they answer no command in the store's place. -/
def elsewhere (key : String) : Setting (Except Failure CallResult) where
  outside s s' := s.elapsed ≤ s'.elapsed ∧ (∀ t, s'.store.get? t key = s.store.get? t key)
    ∧ ∀ f ∈ s'.faults, f.action.Honest

/-- What holds throughout a run of the entry under a key, of the writes so far and of the calls. -/
structure Traced (key : String) (sites : Nat → Site) (v : World) (stages : Nat → Stage) : Prop where
  entry : ∀ entry, v.store.get? v.now key = some entry → Written key v.history entry
  puts : ∀ e ∈ v.history, ∀ text ttl, e.put? key = some (text, ttl) →
    (sites e.task).records ∧ (sites e.task).key = key ∧ ttl = (sites e.task).keep
  records : ∀ i, (stages i).token? ≠ none → (sites i).records
  calls : ∀ i, (sites i).key = key →
    StageTraced key (sites i).limiter v.history i (stages i)

namespace Traced

variable {key : String} {sites : Nat → Site} {v : World} {stages : Nat → Stage}

/-- A write that takes effect puts a record of timestamps that different tasks recorded. -/
theorem written_of_put (inv : Traced key sites v stages) {e : Event} {stage : Stage}
    (admits : v.Admits e) (step : (sites e.task).Step (stages e.task) e stage) {text : String}
    {ttl : Int} (put : e.put? key = some (text, ttl)) :
    Written key (v.add e).history ⟨text, some (v.now + ttl * 1000)⟩ := by
  obtain ⟨hkey, -, hold, timestamps, hs, rfl⟩ := ready_of_put step put
  have traced := inv.calls e.task hkey
  rw [hs] at traced
  obtain ⟨unwritten, fit, pairs, now, recorders, rfl⟩ := traced
  rw [← admits.time]
  exact recorders.written unwritten fit put

/-- A step keeps what is known. -/
theorem event (inv : Traced key sites v stages) (caps : ∀ i, 1 ≤ (sites i).limiter.config.cap)
    (locks : ∀ i, (sites i).records → (sites i).lock ≠ key) {e : Event} {stage : Stage}
    (admits : v.Admits e) (honest : e.action.Honest)
    (step : (sites e.task).Step (stages e.task) e stage) :
    Traced key sites (v.add e) (Function.update stages e.task stage) := by
  have noLock := noLock_of_step step fun token => locks e.task (inv.records e.task token)
  constructor
  · intro entry found
    cases put : e.put? key with
    | none => exact (inv.entry entry (World.get?_of_add put noLock found)).append put
    | some written =>
      obtain ⟨text, ttl⟩ := written
      have here := World.get?_add_of_put (v := v) put
      rw [World.add_now] at found
      rw [here, Option.some.injEq] at found
      rw [← found]
      exact inv.written_of_put admits step put
  · intro x hx text ttl put
    rcases List.mem_append.1 hx with hx | hx
    · exact inv.puts x hx text ttl put
    · rw [List.mem_singleton.1 hx] at put ⊢
      obtain ⟨hkey, keep, hold, timestamps, hs, -⟩ := ready_of_put step put
      exact ⟨inv.records e.task (by simp [hs, Stage.token?]), hkey, keep⟩
  · intro i token
    by_cases hi : i = e.task
    · subst hi
      rw [Function.update_self] at token
      exact records_of_token step (inv.records e.task) token
    · rw [Function.update_of_ne hi] at token
      exact inv.records i token
  · intro i hkey
    by_cases hi : i = e.task
    · subst hi
      rw [Function.update_self]
      exact traced_step (caps _) hkey inv.entry (inv.calls e.task hkey) admits honest step
    · rw [Function.update_of_ne hi]
      exact (inv.calls i hkey).append fun task => absurd task.symm hi

/-- What is known is kept while time passes and the surroundings change other things. -/
theorem later (inv : Traced key sites v stages) {v' : World} (history : v'.history = v.history)
    (later : v.now ≤ v'.now) (store : ∀ t, v'.store.get? t key = v.store.get? t key) :
    Traced key sites v' stages := by
  constructor
  · intro entry found
    rw [store] at found
    rw [history]
    exact inv.entry entry (Store.get?_earlier later found)
  · rw [history]
    exact inv.puts
  · exact inv.records
  · rw [history]
    exact inv.calls

theorem keeps {instances : Instances} {calls : List Delayed} {p : Site}
    (caps : ∀ i, 1 ≤ (Call.siteAt instances calls p i).limiter.config.cap)
    (locks : ∀ i, (Call.siteAt instances calls p i).records →
      (Call.siteAt instances calls p i).lock ≠ key) :
    (Call.regime instances calls p (elsewhere key) FaultAction.Honest).Keeps
      (Traced key (Call.siteAt instances calls p)) where
  perform := fun _ => by simp
  event _ _ _ _ inv admits honest step := inv.event caps locks admits honest step
  pass _ _ _ _ inv _ later _ := inv.later rfl later fun _ => rfl
  outside _ _ _ _ inv _ change := ⟨inv.later rfl change.1 change.2.1, change.2.2⟩

end Traced

/-! ## Denials -/

namespace Call

/-- A call on the limiter or the guard turns its subject away by its result. -/
def Denies : Call → Except Failure CallResult → Prop
  | .record .., result | .isLimited .., result => result = .ok (.flag true)
  | .check .., result => ∃ world, result = .error (.rateLimited world)
  | _, _ => False

/-- A call may record an attempt under a key. -/
def RecordsUnder (instances : Instances) (key : String) (call : Call) : Prop :=
  ∃ p, call.site? instances = some p ∧ p.records ∧ p.key = key

theorem map_flag_eq_ok {outcome : Except Failure Bool} {b : Bool}
    (h : .ok (.flag b) = outcome.map CallResult.flag) : outcome = .ok b := by
  cases outcome with
  | ok c => simpa [Except.map] using h.symm
  | error f => cases h

theorem map_flag_eq_error {outcome : Except Failure Bool} {f : Failure}
    (h : .error f = outcome.map CallResult.flag) : outcome = .error f := by
  cases outcome with
  | ok c => cases h
  | error g => simpa [Except.map] using h.symm

/-- A call that turns its subject away ends at a stage that is justified. -/
theorem Denies.justified {call : Call} {result : Except Failure CallResult}
    (denies : call.Denies result) {stage : Stage} (ends : call.Ends result stage) {key : String}
    {l : Limiter} {h : List Event} {i : Nat} (traced : StageTraced key l h i stage) :
    Justified key l h i := by
  cases call with
  | record j world subject =>
    obtain ⟨outcome, same, ends⟩ := ends
    rw [show result = _ from denies] at same
    generalize ho : outcome = settled at ends
    rw [map_flag_eq_ok same] at ho
    cases ends with
    | finished outcome =>
      rw [Site.eq_of_settle ho.symm] at traced
      exact traced rfl
    | failed f => cases Site.eq_of_settle ho.symm
    | trying => cases ho
  | isLimited j world subject =>
    obtain ⟨outcome, same, ends⟩ := ends
    rw [show result = _ from denies] at same
    rw [map_flag_eq_ok same] at ends
    cases ends with
    | weighed => exact traced.2 rfl
  | check j requestId world subject plain hashed =>
    obtain ⟨outcome, same, ends⟩ := ends
    obtain ⟨w, rfl⟩ := denies
    rcases ends.refused w (map_flag_eq_error same) with rfl | rfl | rfl
    · exact traced.2 rfl
    · exact traced rfl
    · exact absurd rfl (traced w)
  | _ => exact absurd denies (by simp [Denies])

end Call

/-- **No false denial.** Calls on the limiter and the guard run next to each other, at any pace and
    in any order, and commands meet any delays and failures. There was no entry under the key at
    first, none but the calls write there, and it is the key of no lock. When a call whose record is
    under the key turns its subject away, then take its last read of the record and the last reading
    of its clock: before that read, as many other calls as its cap had recorded timestamps in the
    window that ends at that reading, and the last write was then not as long ago as a record is
    kept at most. -/
theorem recorded_of_denied {instances : Instances} {calls : List Delayed} {key : String}
    {s : System} {history : List Event} {final : Schedule (Except Failure CallResult)}
    (onLimiter : ∀ call ∈ calls, (call.2.site? instances).isSome)
    (caps : ∀ i, 1 ≤ (instances.limiter i).config.cap)
    (locks : ∀ call ∈ calls, ∀ p, call.2.site? instances = some p → p.records → p.lock ≠ key)
    (absent : s.get? key = none) (honest : ∀ f ∈ s.faults, f.action.Honest)
    (run : (Call.sideBySide instances calls s).Run (elsewhere key) history final)
    {longest : Int} (kept : ∀ call ∈ calls, ∀ p, call.2.site? instances = some p → p.keep ≤ longest)
    {i : Nat} {call : Delayed} (hi : calls[i]? = some call) {p : Site}
    (hp : call.2.site? instances = some p) (hkey : p.key = key)
    {result : Except Failure CallResult} (ended : final.tasks[i]? = some (.ended result))
    (denies : call.2.Denies result) :
    ∃ before g now, LastLook key history i before g ∧ LastRead p.limiter history i now
      ∧ (∃ pairs, Recorders key before pairs ∧ p.limiter.config.cap ≤ pairs.length
          ∧ ∀ w ∈ pairs, w.1 ≠ i ∧ now - p.limiter.config.windowSeconds * 1000 < w.2
            ∧ ∃ other, calls[w.1]? = some other ∧ other.2.RecordsUnder instances key)
      ∧ ∃ time ttl, LastPut key before time ttl ∧ g.time - time < longest * 1000 := by
  let q : Site := ⟨instances.limiter 0, "", "", false, false, false⟩
  have caps' : ∀ j, 1 ≤ (Call.siteAt instances calls q j).limiter.config.cap := by
    refine Call.siteAt_all (Q := fun p => 1 ≤ p.limiter.config.cap) (caps 0) ?_
    intro call _ p hp
    obtain ⟨j, hj⟩ := Call.limiter_of_site? hp
    rw [hj]
    exact caps j
  have locks' : ∀ j, (Call.siteAt instances calls q j).records →
      (Call.siteAt instances calls q j).lock ≠ key :=
    Call.siteAt_all (Q := fun p => p.records → p.lock ≠ key) (fun no => by cases no)
      fun call hc p hp => locks call hc p hp
  have start : Traced key (Call.siteAt instances calls q) (.of s []) fun _ => .delayed := by
    constructor
    · intro entry found
      rw [show (World.of s []).store.get? (World.of s []).now key = none from absent] at found
      cases found
    · simp [World.of]
    · simp [Stage.token?]
    · intro j _ e he
      cases he
  obtain ⟨stages, inv, rest, -⟩ := run.invariant (Traced.keeps caps' locks') start
    (Call.atRest_sideBySide (by simp [FaultAction.Honest]) onLimiter s) honest
  -- Whoever wrote under the key is a call that records there, and keeps its record as it says.
  have writer : ∀ e ∈ history, ∀ text ttl, e.put? key = some (text, ttl) →
      ttl ≤ longest ∧ ∃ other, calls[e.task]? = some other
        ∧ other.2.RecordsUnder instances key := by
    intro e he text ttl put
    obtain ⟨records, under, keep⟩ := inv.puts e he text ttl put
    obtain ⟨other, hother, hsite⟩ := Call.siteAt_of (Q := fun p => p.records) (by simp [q]) records
    rw [keep]
    exact ⟨kept other (List.mem_of_getElem? hother) _ hsite, other, hother, _, hsite, records,
      under⟩
  obtain ⟨call', hi', ends⟩ := rest.1 i _ ended
  obtain rfl : call = call' := Option.some.inj (hi.symm.trans hi')
  have site : Call.siteAt instances calls q i = p := Call.siteAt_eq hi hp
  have traced := inv.calls i (by rw [site]; exact hkey)
  rw [site] at traced
  obtain ⟨before, g, now, look, read, ⟨pairs, recorders, many, each⟩, time, ttl, last, fresh⟩ :=
    denies.justified ends traced
  have earlier : ∀ e ∈ before, e ∈ history := by
    obtain ⟨after, split, -⟩ := look
    intro e he
    rw [show history = before ++ g :: after from split]
    exact List.mem_append_left _ he
  refine ⟨before, g, now, look, read, ⟨pairs, recorders, many, ?_⟩, time, ttl, last, ?_⟩
  · intro w hw
    obtain ⟨other, inWindow⟩ := each w hw
    obtain ⟨e, he, htask, _, _, put⟩ := recorders.recorded w hw
    exact ⟨other, inWindow, htask ▸ (writer e (earlier e he) _ _ put).2⟩
  · obtain ⟨start, e, stop, text, hb, -, put, -⟩ := last
    have := (writer e (earlier e (by simp [hb])) text ttl put).1
    omega

/-- A limiter with a cap of one. -/
def single : Instances := ⟨[{ cap := 1 }]⟩

/-- An attempt, and a look at the record. -/
def attemptAndLook : List Delayed := [(0, .record 0 "w" "s"), (0, .isLimited 0 "w" "s")]

/-- The release of the attempt's lock fails after it took effect, and the look begins later. -/
def attemptThenLook : Option (List Event × Schedule (Except Failure CallResult)) :=
  (Call.sideBySide single attemptAndLook
    { faults := [{ kind := .deleteIfEqual, action := .fail .connection "lost" true }] }).follow
    [(0, 0), (0, 5), (0, 10), (0, 15), (0, 20), (1, 100), (1, 110)]

theorem isSome_attemptThenLook : attemptThenLook.isSome := by decide +kernel

/-- A task has ended with the answer that its subject is turned away. -/
def Task.toldLimited : Option (Task (Except Failure CallResult)) → Bool
  | some (.ended (.ok (.flag limited))) => limited
  | _ => false

theorem Task.eq_of_toldLimited {task : Option (Task (Except Failure CallResult))}
    (h : Task.toldLimited task) : task = some (.ended (.ok (.flag true))) := by
  unfold toldLimited at h
  split at h
  · rw [h]
  · cases h

/-- The subject of the look is turned away for a recorded attempt. -/
theorem recorded_of_denied_of_attemptThenLook :
    Task.toldLimited (attemptThenLook.get isSome_attemptThenLook).2.tasks[1]?
      ∧ ∃ before g now,
        LastLook (attemptsKey "w" "s") (attemptThenLook.get isSome_attemptThenLook).1 1 before g
          ∧ LastRead (single.limiter 0) (attemptThenLook.get isSome_attemptThenLook).1 1 now
          ∧ ∃ pairs, Recorders (attemptsKey "w" "s") before pairs ∧ 1 ≤ (pairs.length : Int)
            ∧ ∀ w ∈ pairs, now - 60 * 1000 < w.2 := by
  have told : Task.toldLimited (attemptThenLook.get isSome_attemptThenLook).2.tasks[1]? := by
    decide +kernel
  have free : ∀ c t, (elsewhere (attemptsKey "w" "s")).mayPass c t := fun _ _ => trivial
  have run := Schedule.run_of_follow free (Option.some_get isSome_attemptThenLook).symm
  have either : ∀ call ∈ attemptAndLook, ∀ p, call.2.site? single = some p →
      p.lock = lockKey "w" "s" ∧ p.keep = 70 := by
    intro call hc p hp
    rcases List.mem_pair.1 hc with rfl | rfl <;>
    · cases hp
      exact ⟨rfl, rfl⟩
  have caps : ∀ i, 1 ≤ (single.limiter i).config.cap := by
    intro i
    cases i with
    | zero => decide
    | succ => exact (by decide : (1 : Int) ≤ 3)
  have locks : ∀ call ∈ attemptAndLook, ∀ p, call.2.site? single = some p → p.records →
      p.lock ≠ attemptsKey "w" "s" := by
    intro call hc p hp _
    rw [(either call hc p hp).1]
    exact (attemptsKey_ne_lockKey "w" "s").symm
  have second : attemptAndLook[1]? = some (0, .isLimited 0 "w" "s") := rfl
  have site : (Call.isLimited 0 "w" "s").site? single
      = some ⟨single.limiter 0, "w", "s", true, false, false⟩ := rfl
  obtain ⟨before, g, now, look, read, ⟨pairs, recorders, many, each⟩, -⟩ :=
    recorded_of_denied (by decide) caps locks (by rfl) (by simp [FaultAction.Honest]) run
      (fun call hc p hp => (either call hc p hp).2.le) second site rfl
      (Task.eq_of_toldLimited told) rfl
  exact ⟨told, before, g, now, look, read, pairs, recorders, many, fun w hw => (each w hw).2.1⟩

end Turnstile

import Turnstile.Cache
import Turnstile.Proofs.Json.RoundTrip
import Turnstile.Proofs.Run.Doings
import Turnstile.Proofs.Store.Replay

set_option autoImplicit false

/-! # What is cached is found again

A value that was kept in the cache is what is read under its key until its time is over, and then
there is none (`Cache.get_of_set`): in every run, as long as nobody else writes the key. A run is
followed event by event. Where a text was last put under the key (`CachedAt`), the store has it
there until then, and a read that nothing comes in the way of is answered so. -/

namespace Turnstile

/-! ## What leaves a key alone -/

/-- A command that is not told that it did something did nothing. -/
theorem Command.perform_of_not_truthy {now : Int} {s : Store} {c : Command}
    (idle : ∀ value, (c.perform now s).2 = .ok value → value.truthy = false) :
    (c.perform now s).1 = s := by
  cases c with
  | get key => exact perform_get now s key
  | set key value ttl =>
    simp only [perform] at idle ⊢
    split
    · rfl
    · next positive =>
      rw [if_neg positive] at idle
      cases idle _ rfl
  | setIfAbsent key value ttl =>
    rcases setIfAbsent_cases now s key value ttl with ⟨-, -, put⟩ | refused | refused
    · rw [put] at idle
      cases idle _ rfl
    · rw [refused]
    · rw [refused]
  | delete key =>
    simp only [perform] at idle ⊢
    split
    · next found =>
      rw [found] at idle
      cases idle _ rfl
    · rfl
  | deleteIfEqual key value =>
    simp only [perform] at idle ⊢
    split
    · next found =>
      rw [found] at idle
      split
      · next same =>
        simp only [if_pos same] at idle
        cases idle _ rfl
      · rfl
    · rfl
  | ping | close => rfl

/-- The event is no write of a key: no command about it but a read, or one that was kept from taking
    effect or told that it did nothing, and no change of it by the operator. -/
def Event.Avoids (key : String) : Event → Prop
  | ⟨_, _, .command c, action, reply⟩ => c.key? = some key → c = .get key
      ∨ action.performs = false
      ∨ action = .perform ∧ ∀ value, reply = .ok value → value.truthy = false
  | ⟨_, _, .operate (.write k _ _), _, _⟩ => k ≠ key
  | ⟨_, _, .operate (.erase k), _, _⟩ => k ≠ key
  | _ => True

/-- Whatever comes in its way, a read leaves the store as it is. -/
theorem FaultAction.apply_get (action : FaultAction) (now : Int) (s : Store) (key : String) :
    (action.apply now s (.get key)).1 = s := by
  cases performs : action.performs with
  | true => rw [apply_of_performs performs, Command.perform_get]
  | false => exact apply_of_not_performs performs now s _

/-- What is under a key stays there when it is avoided. -/
theorem Event.Avoids.get?_perform {key : String} {s : System} {task : Nat} {action : FaultAction}
    {e : Effect}
    (avoids : Event.Avoids key ⟨s.elapsed, task, e, action, (e.perform task action s).2⟩)
    (t : Int) :
    (e.perform task action s).1.store.get? t key = s.store.get? t key := by
  cases e with
  | command c =>
    show (action.apply s.elapsed s.store c).1.get? t key = s.store.get? t key
    by_cases about : c.key? = some key
    · rcases avoids about with rfl | kept | ⟨rfl, idle⟩
      · rw [FaultAction.apply_get]
      · rw [FaultAction.apply_of_not_performs kept]
      · exact congrArg (Store.get? · t key) (Command.perform_of_not_truthy idle)
    · exact FaultAction.get?_apply_of_ne action _ _ _ _ _ about
  | operate operation =>
    cases operation with
    | write k value ttl =>
      show (s.store.put k _).get? t key = _
      rw [Store.get?_put, if_neg (Ne.symm avoids)]
    | erase k =>
      show (s.store.erase k).get? t key = _
      rw [Store.get?_erase, if_neg (Ne.symm avoids)]
    | _ => rfl
  | _ => rfl

/-! ## What was last put under a key -/

/-- What is put under a key until an instant is found there before it. -/
theorem Store.get?_put_until (s : Store) (key text : String) (expiry later : Int) :
    (s.put key ⟨text, some expiry⟩).get? later key
      = if later < expiry then some ⟨text, some expiry⟩ else none := by
  rw [get?_put, if_pos rfl, Option.filter_some, Entry.isLive, Option.all_some]
  simp only [decide_eq_true_eq]

/-- A text was put under a key at an instant, for so many seconds, and the key was avoided since. -/
def CachedAt (key text : String) (ttl : Int) (h : List Event) (t : Int) : Prop :=
  ∃ before put between, h = before ++ put :: between ∧ put.time = t
    ∧ put.effect = .command (.set key text ttl) ∧ put.action = .perform
    ∧ ∀ e ∈ between, e.Avoids key

section

variable {key text : String} {ttl t : Int} {h : List Event}

theorem CachedAt.not_nil : ¬CachedAt key text ttl [] t := by
  rintro ⟨before, put, between, split, -⟩
  simp at split

/-- A text was last put there by the last event, or before it, which then avoided the key. -/
theorem CachedAt.snoc_cases {e : Event} (put : CachedAt key text ttl (h ++ [e]) t) :
    (e.time = t ∧ e.effect = .command (.set key text ttl) ∧ e.action = .perform)
      ∨ CachedAt key text ttl h t ∧ e.Avoids key := by
  obtain ⟨before, x, between, split, time, puts, action, avoided⟩ := put
  rcases Turnstile.snoc_cases split with ⟨-, rfl, -⟩ | ⟨rest, earlier, rfl⟩
  · exact .inl ⟨time, puts, action⟩
  · obtain ⟨avoided, last⟩ := List.forall_mem_append.1 avoided
    exact .inr ⟨⟨before, x, rest, earlier, time, puts, action, avoided⟩,
      last e (List.mem_singleton.2 rfl)⟩

/-- The surroundings of a run leave what is under a key as it is. -/
def Setting.Avoids {α : Type} (setting : Setting α) (key : String) : Prop :=
  ∀ s s', setting.outside s s' → s'.store.Agree key s.store

/-- The store has what was last put under a key, until it has expired, and every read that nothing
    came in the way of was answered so. -/
structure Finds (key text : String) (ttl : Int) (s : System) (h : List Event) : Prop where
  store : ∀ t, CachedAt key text ttl h t → ∀ later, s.store.get? later key
    = if later < t + ttl * 1000 then some ⟨text, some (t + ttl * 1000)⟩ else none
  reads : Each (fun before e => ∀ t, CachedAt key text ttl before t → ∀ time task reply,
    e = ⟨time, task, .command (.get key), .perform, reply⟩ →
      reply = .ok (if time < t + ttl * 1000 then .text text else .null)) h

theorem Finds.keeps {α : Type} {setting : Setting α} (positive : 1 ≤ ttl)
    (avoids : setting.Avoids key) : setting.Keeps (Finds key text ttl) where
  issue s h task e finds := by
    refine ⟨fun t put later => ?_, finds.reads⟩
    rw [show (e.issue task s).system.store = s.store by cases e <;> rfl]
    exact finds.store t put later
  perform s h task action e finds := by
    constructor
    · intro t put later
      rcases put.snoc_cases with ⟨rfl, rfl, rfl⟩ | ⟨put, avoided⟩
      · -- The text is put there now.
        have performed : ((Effect.command (.set key text ttl)).perform task .perform s).1.store
            = s.store.put key ⟨text, some (s.elapsed + ttl * 1000)⟩ := by
          show (Command.perform s.elapsed s.store (.set key text ttl)).1 = _
          rw [Command.perform, if_neg (by omega)]
        rw [performed]
        exact Store.get?_put_until s.store key text _ later
      · rw [avoided.get?_perform]
        exact finds.store t put later
    · refine finds.reads.snoc fun t put time task' reply same => ?_
      have found := finds.store t put s.elapsed
      cases same
      show (Command.perform s.elapsed s.store (.get key)).2 = _
      rw [Command.perform, found]
      by_cases live : s.elapsed < t + ttl * 1000
      · rw [if_pos live, if_pos live]
      · rw [if_neg live, if_neg live]
  pass s h t finds _ := ⟨finds.store, finds.reads⟩
  outside s s' h finds change := by
    refine ⟨fun t put later => ?_, finds.reads⟩
    rw [avoids s s' change]
    exact finds.store t put later

end

/-! ## Values that are kept -/

namespace Cache

variable {key : String} {value : Json} {ttl : Int} {task : Nat}

/-- To keep a value that can be written is a single command. -/
theorem set_does {e : Event} {outcome : Except Failure Unit} (fits : value.integersFit)
    (h : (set key value ttl).Does task [e] outcome) :
    ∃ reply, e = ⟨e.time, task, .command (.set key (value.write .stored) ttl), e.action, reply⟩
      ∧ outcome = reply.map fun _ => () := by
  rw [set, fits] at h
  rcases Routine.Does.bind_cases h with ⟨f, issues, rfl⟩ | ⟨reply, first, rest, split, issues, ends⟩
  · obtain ⟨time, action, same⟩ := issues.of_command
    cases same
    exact ⟨.error f, rfl, rfl⟩
  · obtain ⟨time, action, rfl⟩ := issues.of_command
    obtain ⟨rfl, rfl⟩ := Routine.does_pure.1 ends
    cases split
    exact ⟨.ok reply, rfl, rfl⟩

theorem get_does {e : Event} {outcome : Except Failure Json}
    (h : (get key).Does task [e] outcome) :
    ∃ reply, e = ⟨e.time, task, .command (.get key), e.action, reply⟩
      ∧ outcome = reply.bind valueOf := by
  obtain ⟨time, action, reply, same, rfl⟩ := Routine.Does.command_then h
  cases same
  exact ⟨reply, rfl, rfl⟩

/-- **What is cached is found again.** In every run, where a value is kept under a key for some time
    and nobody else writes the key, whoever reads the key gets the value itself before the time is
    over, and none from then on, whatever was there before. -/
theorem get_of_set {α : Type} {setting : Setting α} {c d : Schedule α}
    (before between after : List Event) {put got : Event} {depth : Nat}
    {kept : Except Failure Unit} {read : Except Failure Json}
    (run : Schedule.Run setting c (before ++ put :: (between ++ got :: after)) d)
    (surroundings : setting.Avoids key) (storable : value.Storable depth)
    (shallow : depth ≤ Json.maxDepth) (positive : 1 ≤ ttl)
    (sets : (set key value ttl).Does put.task [put] kept) (took : put.action = .perform)
    (avoided : ∀ e ∈ between, e.Avoids key) (gets : (get key).Does got.task [got] read)
    (undisturbed : got.action = .perform) :
    kept = .ok () ∧ read = .ok (if got.time < put.time + 1000 * ttl then value else .null) := by
  obtain ⟨told, same, rfl⟩ := set_does storable.integersFit sets
  obtain ⟨reply, asked, rfl⟩ := get_does gets
  rw [took] at same
  rw [undisturbed] at asked
  constructor
  · -- A write for some time succeeds.
    obtain ⟨v, admits⟩ := run.exists_admits put (by simp)
    rw [same] at admits
    have answer : told = (Command.perform v.now v.store (.set key (value.write .stored) ttl)).2 :=
      admits.answer
    rw [answer, Command.perform, if_neg (by omega)]
    rfl
  · have start : Finds key (value.write .stored) ttl c.system [] :=
      ⟨fun _ put => absurd put CachedAt.not_nil, .nil _⟩
    have finds := run.keeps (Finds.keeps positive surroundings) start
    have last : CachedAt key (value.write .stored) ttl (before ++ put :: between) put.time :=
      ⟨before, put, between, rfl, rfl, by rw [same], by rw [same], avoided⟩
    rw [finds.reads (before ++ put :: between) got after (by simp) _ last _ _ _ asked, Int.mul_comm]
    by_cases live : got.time < put.time + 1000 * ttl
    · rw [if_pos live, if_pos live, Except.bind, valueOf, Json.read_write storable shallow]
    · rw [if_neg live, if_neg live]
      rfl

/-- A value with what has to be escaped: a quote, a control character and one beyond the first
    2^16. -/
def greeting : Json := .object [("\"to\"", .text "\x07 😀"), ("at", .list [.int (-5), .null])]

/-- A task keeps the greeting for a second and reads it when that is over, and another reads it just
    before. -/
def greetLater : Option (List Event × Schedule (Except Failure Json)) :=
  (Schedule.start [(0, (do set "k" greeting 1; get "k" : Routine Json).run), (0, (get "k").run)]
    {}).follow [(0, 0), (0, 0), (1, 5), (1, 999), (0, 1000)]

/-- A command of one of the two. -/
def greeted (time : Int) (task : Nat) (c : Command) (reply : Except Failure Json) : Event :=
  ⟨time, task, .command c, .perform, reply⟩

/-- What the two do. -/
def greetings : List Event :=
  let text := greeting.write .stored
  [⟨0, 0, .wait 0, .perform, ()⟩, greeted 0 0 (.set "k" text 1) (.ok (.bool true)),
    ⟨5, 1, .wait 0, .perform, ()⟩, greeted 999 1 (.get "k") (.ok (.text text)),
    greeted 1000 0 (.get "k") (.ok .null)]

theorem history_greetLater : greetLater.map (·.1) = some greetings := rfl

theorem storable_greeting : greeting.Storable 2 := by
  refine .object (by decide) fun m hm => ?_
  simp only [List.mem_cons, List.not_mem_nil, or_false] at hm
  rcases hm with rfl | rfl
  · exact .text _
  · refine .list fun v hv => ?_
    simp only [List.mem_cons, List.not_mem_nil, or_false] at hv
    rcases hv with rfl | rfl
    · exact .int (by decide)
    · exact .null

/-- The first read finds the greeting and the second finds nothing. -/
theorem get_of_set_of_greetLater :
    ∃ final, greetLater = some (greetings, final)
      ∧ (get "k").Does 1 [greeted 999 1 (.get "k") (.ok (.text (greeting.write .stored)))]
        (.ok greeting)
      ∧ (get "k").Does 0 [greeted 1000 0 (.get "k") (.ok .null)] (.ok .null) := by
  obtain ⟨⟨_, final⟩, follows, rfl⟩ := Option.map_eq_some_iff.1 history_greetLater
  have run : Schedule.Run {} _ greetings final :=
    Schedule.run_of_follow (fun _ _ => trivial) follows
  let text := greeting.write .stored
  have keeps : (set "k" greeting 1).Does 0 [greeted 0 0 (.set "k" text 1) (.ok (.bool true))]
      (.ok ()) := Proc.Does.perform (e := .command _) 0 .perform (.ok (.bool true)) (.done _)
  have early : (get "k").Does 1 [greeted 999 1 (.get "k") (.ok (.text text))]
      (valueOf (.text text)) :=
    Proc.Does.perform (e := .command _) 999 .perform (.ok (.text text)) (.done _)
  have late : (get "k").Does 0 [greeted 1000 0 (.get "k") (.ok .null)] (valueOf .null) :=
    Proc.Does.perform (e := .command _) 1000 .perform (.ok .null) (.done _)
  have avoided : ∀ e ∈ [(⟨5, 1, .wait 0, .perform, ()⟩ : Event),
      greeted 999 1 (.get "k") (.ok (.text text))], e.Avoids "k" :=
    List.forall_mem_cons.2 ⟨trivial, List.forall_mem_singleton.2 fun _ => .inl rfl⟩
  have found := (get_of_set [_] [_] _ run nofun storable_greeting (by decide) (by decide) keeps rfl
    (List.forall_mem_singleton.2 trivial) early rfl).2
  have gone := (get_of_set [_] [_, _] [] run nofun storable_greeting (by decide) (by decide) keeps
    rfl avoided late rfl).2
  rw [found] at early
  rw [gone] at late
  exact ⟨final, follows, early, late⟩

end Cache

end Turnstile

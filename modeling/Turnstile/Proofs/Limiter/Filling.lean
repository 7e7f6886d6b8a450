import Turnstile.Proofs.Limiter.Linearizable
import Turnstile.Proofs.Limiter.Register
import Turnstile.Proofs.Limiter.Tries

set_option autoImplicit false

/-! # How a record fills up

Record calls of one pair, on instances that share one configuration and show the same time, run next
to each other without faults, and nothing was recorded before. Each call that acquires its lock
either writes its timestamp and counts the attempt as allowed, or finds that the cap is reached.
Where all happens within the window, the record holds the timestamps of all that wrote.

The invariant keeps, beside the run, the list of those who wrote, each with its timestamp. It needs
nothing of what a call under its lock has read: time does not pass there, and the record that the
call has read is the one that is stored (`InLine`). -/

namespace Turnstile

namespace Register

/-- What a locked section decides that finds timestamps. -/
theorem judge_of_finds {p : Site} {v : World} {acquired : Binary64} {now : Int}
    {timestamps : List Int} (finds : Finds p.limiter.config v.store p.key v.now now timestamps) :
    p.judge acquired now (v.reply p.key)
      = if p.limiter.capReached timestamps then .closing (.ok true)
      else .room acquired now timestamps := by
  obtain ⟨value, told, recent⟩ := finds
  have stored : Site.stored (v.reply p.key) = .ok value := by
    unfold Site.stored World.reply
    rw [told]
  have found : (Except.ok value).bind (fun value => p.limiter.recent value now)
      = .ok timestamps := recent
  rw [Site.judge, stored, found]

end Register

/-- A section that has room for its timestamp comes to writing it. -/
theorem Site.early_room {p : Site} {v : World} {acquired : Binary64} {now : Int} {recent : List Int}
    (ttl : 1 ≤ p.ttl) (monotonic : v.monotonic = .ok acquired)
    (inRange : ∀ n ∈ recent ++ [now], inBinary64Range n) :
    p.early (.room acquired now recent) = true := by
  simp only [Site.early, Site.prepare, World.not_reaches monotonic ttl,
    Json.integersFit_record_of_inRange inRange]
  rfl

/-! ## What the calls share -/

/-- What the calls on one record share: its key and that of its lock, the configuration, the start
    of time and the clocks' skews, and the skew of each of their own. -/
structure Filling where
  key : String
  lock : String
  config : LimiterConfig
  epoch : Int
  skews : List Int
  skew : Int

namespace Filling

variable (f : Filling)

/-- A call that records attempts there, and does nothing else. -/
structure Shares (p : Site) : Prop where
  key : p.key = f.key
  lock : p.lock = f.lock
  config : p.limiter.config = f.config
  looks : p.looks = false
  drops : p.drops = false
  clock : ∃ k, p.limiter.clock = .skewed k ∧ (p.records → f.skews.getD k 0 = f.skew)

/-- Attempts are tracked: the lock can be acquired, and what is written is kept. -/
structure Tracks : Prop where
  cap : 1 ≤ f.config.cap
  ttl : 1 ≤ f.config.lock.ttl
  keep : 1 ≤ f.config.recordSeconds
  apart : f.key ≠ f.lock

/-- Between the instants the window does not move on, and no record expires. -/
def Near (a b : Int) : Prop :=
  b - a < 1000 * f.config.windowSeconds ∧ b - a < 1000 * f.config.recordSeconds

/-- All that was done was done within the window. -/
def Within (h : List Event) : Prop := ∀ a ∈ h, ∀ b ∈ h, f.Near a.time b.time

/-- Whenever the lock was acquired the clocks could be read. -/
def Reads (h : List Event) : Prop :=
  ∀ e ∈ h, e.acquires f.lock → Register.Readable f.epoch f.skew e.time

/-! ## The invariant -/

/-- A call has written its timestamp and counts as allowed, or has found the cap reached. -/
inductive Settled (written : List (Nat × Int)) (h : List Event) (i : Nat) :
    Except Failure Bool → Prop where
  | allowed (mine : i ∈ written.map Prod.fst) (counted : ∃ e ∈ h, e.task = i ∧ e.counts .allowed) :
      Settled written h i (.ok false)
  | limited (absent : i ∉ written.map Prod.fst)
      (full : f.Within h → f.config.cap ≤ written.length) :
      Settled written h i (.ok true)

/-- What has become of a call's timestamp, by how far it got. -/
def Place (p : Site) (written : List (Nat × Int)) (h : List Event) (i : Nat) : Stage → Prop
  | .delayed | .idle | .trying .. => i ∉ written.map Prod.fst
  | .inside _ .written => i ∈ written.map Prod.fst
  | .inside _ (.closing outcome) | .finished outcome => f.Settled written h i outcome
  | .inside _ phase => i ∉ written.map Prod.fst ∧ p.early phase
  | _ => False

/-- What is stored under the key: nothing before anything was written, and then a record, until it
    expires. -/
def Holds (v : World) (written : List (Nat × Int)) : Prop :=
  written = [] ∧ (∀ t, v.now ≤ t → v.store.get? t f.key = none)
    ∨ written ≠ [] ∧ ∃ kept, (∀ n ∈ kept, inBinary64Range n)
      ∧ (f.Within v.history → kept = written.map Prod.snd)
      ∧ ∃ e ∈ v.history, ∀ t, v.now ≤ t → v.store.get? t f.key
        = (some ⟨(Window.record kept).write .stored,
            some (e.time + f.config.recordSeconds * 1000)⟩ : Option Entry).filter (·.isLive t)

/-- What holds of the calls that share a record, and of those who wrote to it. -/
structure Filled (sites : Nat → Site) (v : World) (stages : Nat → Stage)
    (written : List (Nat × Int)) : Prop where
  epoch : v.epoch = f.epoch
  skews : v.skews = f.skews
  place : ∀ i, f.Place (sites i) written v.history i (stages i)
  nodup : (written.map Prod.fst).Nodup
  stamps : ∀ x ∈ written, ∃ e ∈ v.history, x.2 = f.epoch + e.time + f.skew
  few : f.Within v.history → written.length ≤ f.config.cap
  holds : f.Holds v written
  free : (∀ i, (stages i).hold? = none) → ∀ t, v.now ≤ t → v.store.get? t f.lock = none
  refused : ∀ e ∈ v.history, e.refuses f.lock → ∃ i, AcquiredAt f.lock v.history i e.time

/-! ## Events that write nothing -/

section

variable {f : Filling} {p : Site} {v : World} {written : List (Nat × Int)} {h : List Event}
  {i : Nat}

theorem Within.left {k : List Event} (within : f.Within (h ++ k)) : f.Within h :=
  fun a ha b hb => within a (List.mem_append_left k ha) b (List.mem_append_left k hb)

theorem Within.near {e : Event} (within : f.Within (h ++ [e])) : ∀ x ∈ h, f.Near x.time e.time :=
  fun x hx => within x (List.mem_append_left _ hx) e
    (List.mem_append_right h (List.mem_singleton_self e))

/-- Who has written does not change with what others write. -/
theorem mem_append_of_others {more : List (Nat × Int)} (others : i ∉ more.map Prod.fst) :
    i ∈ (written ++ more).map Prod.fst ↔ i ∈ written.map Prod.fst := by
  rw [List.map_append, List.mem_append]
  exact ⟨fun h => h.elim id fun mine => absurd mine others, .inl⟩

theorem Settled.append {outcome : Except Failure Bool} (settled : f.Settled written h i outcome)
    (more : List (Nat × Int)) (others : i ∉ more.map Prod.fst) (k : List Event) :
    f.Settled (written ++ more) (h ++ k) i outcome := by
  cases settled with
  | allowed mine counted =>
    obtain ⟨e, he, rest⟩ := counted
    exact .allowed ((mem_append_of_others others).2 mine) ⟨e, List.mem_append_left k he, rest⟩
  | limited absent full =>
    refine .limited (fun mine => absent ((mem_append_of_others others).1 mine)) fun within => ?_
    have := full within.left
    rw [List.length_append]
    omega

/-- What others write changes nothing for a call. -/
theorem Place.append {stage : Stage} (place : f.Place p written h i stage)
    (more : List (Nat × Int)) (others : i ∉ more.map Prod.fst) (k : List Event) :
    f.Place p (written ++ more) (h ++ k) i stage := by
  have same : i ∈ (written ++ more).map Prod.fst ↔ i ∈ written.map Prod.fst :=
    mem_append_of_others others
  cases stage with
  | delayed | idle | trying => exact mt same.1 place
  | finished outcome => exact Settled.append place more others k
  | inside hold phase =>
    cases phase with
    | written => exact same.2 place
    | closing outcome => exact Settled.append place more others k
    | _ => exact ⟨mt same.1 place.1, place.2⟩
  | _ => exact place

/-- A call keeps its place while nothing is written. -/
theorem Place.later {stage : Stage} (place : f.Place p written h i stage) (k : List Event) :
    f.Place p written (h ++ k) i stage := by
  have placed := place.append [] (by simp) k
  rwa [List.append_nil] at placed

/-- What a limiter finds now, and that it is all that was written if nothing is too long ago. -/
theorem Holds.finds (holds : f.Holds v written)
    (stamps : ∀ x ∈ written, ∃ e ∈ v.history, x.2 = f.epoch + e.time + f.skew) :
    ∃ timestamps, Register.Finds f.config v.store f.key v.now (f.epoch + v.now + f.skew) timestamps
      ∧ (∀ n ∈ timestamps, inBinary64Range n)
      ∧ (f.Within v.history → (∀ e ∈ v.history, f.Near e.time v.now) →
        timestamps = written.map Prod.snd) := by
  rcases holds with ⟨rfl, empty⟩ | ⟨-, kept, inRange, all, e, he, stored⟩
  · exact ⟨[], Register.finds_nil _ (empty _ (Int.le_refl _)), by simp, fun _ _ => rfl⟩
  · have stored := stored v.now (Int.le_refl _)
    by_cases live : v.now < e.time + f.config.recordSeconds * 1000
    · rw [Option.filter_some, if_pos (by simpa [Entry.isLive] using live)] at stored
      refine ⟨_, Register.finds_record _ inRange stored,
        fun n hn => inRange n (List.mem_filter.1 hn).1, fun within near => ?_⟩
      rw [← all within]
      refine List.filter_eq_self.2 fun n hn => ?_
      rw [all within] at hn
      obtain ⟨x, hx, rfl⟩ := List.mem_map.1 hn
      obtain ⟨d, hd, stamp⟩ := stamps x hx
      have recent := (near d hd).1
      rw [decide_eq_true_eq, Window.start, stamp]
      omega
    · rw [Option.filter_some, if_neg (by simpa [Entry.isLive] using live)] at stored
      refine ⟨[], Register.finds_nil _ stored, by simp, fun _ near => ?_⟩
      have := (near e he).2
      omega

end

namespace Filled

variable {f : Filling} {sites : Nat → Site} {v : World} {stages : Nat → Stage}
  {written : List (Nat × Int)}

/-- At the start nothing was written. -/
theorem start (epoch : v.epoch = f.epoch) (skews : v.skews = f.skews)
    (delayed : ∀ i, stages i = .delayed) (none : v.history = [])
    (record : ∀ t, v.now ≤ t → v.store.get? t f.key = Option.none)
    (lock : ∀ t, v.now ≤ t → v.store.get? t f.lock = Option.none) (cap : 0 ≤ f.config.cap) :
    f.Filled sites v stages [] := by
  refine ⟨epoch, skews, fun i => ?_, List.nodup_nil, by simp, fun _ => cap, .inl ⟨rfl, record⟩,
    fun _ => lock, by simp [none]⟩
  rw [delayed i]
  exact List.not_mem_nil

/-- Time that passes changes nothing. -/
theorem pass (filled : f.Filled sites v stages written) {t : Int} (later : v.now ≤ t) :
    f.Filled sites (v.atTime t) stages written where
  epoch := filled.epoch
  skews := filled.skews
  place := filled.place
  nodup := filled.nodup
  stamps := filled.stamps
  few := filled.few
  holds := by
    rcases filled.holds with ⟨nothing, empty⟩ | ⟨some, kept, inRange, all, e, he, stored⟩
    · exact .inl ⟨nothing, fun u hu => empty u (Int.le_trans later hu)⟩
    · exact .inr ⟨some, kept, inRange, all, e, he, fun u hu => stored u (Int.le_trans later hu)⟩
  free none u hu := filled.free none u (Int.le_trans later hu)
  refused := filled.refused

/-- The place of a call at a known stage. -/
theorem placed (filled : f.Filled sites v stages written) {i : Nat} {stage : Stage}
    (here : stages i = stage) : f.Place (sites i) written v.history i stage :=
  here ▸ filled.place i

/-- The places of all after an event of a call that writes nothing. -/
theorem place_of_own (filled : f.Filled sites v stages written) {e : Event} {stage : Stage}
    (own : f.Place (sites e.task) written (v.history ++ [e]) e.task stage) (i : Nat) :
    f.Place (sites i) written (v.history ++ [e]) i (Function.update stages e.task stage i) := by
  by_cases mine : i = e.task
  · subst mine
    rw [Function.update_self]
    exact own
  · rw [Function.update_of_ne mine]
    exact (filled.place i).later [e]

/-- What is stored does not change with an event that leaves it alone. -/
theorem holds_of_same (filled : f.Filled sites v stages written) {e : Event}
    (same : ∀ t, (v.add e).store.get? t f.key = v.store.get? t f.key) :
    f.Holds (v.add e) written := by
  rcases filled.holds with ⟨nothing, empty⟩ | ⟨some, kept, inRange, all, d, hd, stored⟩
  · exact .inl ⟨nothing, fun t ht => (same t).trans (empty t ht)⟩
  · exact .inr ⟨some, kept, inRange, fun within => all within.left, d, List.mem_append_left _ hd,
      fun t ht => (same t).trans (stored t ht)⟩

/-- An event that leaves the record alone, and after which the lock is free if no call holds it. -/
theorem add (filled : f.Filled sites v stages written) {e : Event} {stage : Stage}
    (record : ∀ t, (v.add e).store.get? t f.key = v.store.get? t f.key)
    (free : (∀ i, (Function.update stages e.task stage i).hold? = none) →
      ∀ t, v.now ≤ t → (v.add e).store.get? t f.lock = none)
    (refused : e.refuses f.lock → ∃ i, AcquiredAt f.lock v.history i e.time)
    (own : f.Place (sites e.task) written (v.history ++ [e]) e.task stage) :
    f.Filled sites (v.add e) (Function.update stages e.task stage) written where
  epoch := filled.epoch
  skews := filled.skews
  place := filled.place_of_own own
  nodup := filled.nodup
  stamps x hx := by
    obtain ⟨d, hd, stamp⟩ := filled.stamps x hx
    exact ⟨d, List.mem_append_left _ hd, stamp⟩
  few within := filled.few within.left
  holds := filled.holds_of_same record
  free := free
  refused x hx refuses := by
    obtain ⟨i, acquired⟩ : ∃ i, AcquiredAt f.lock v.history i x.time := by
      rcases List.mem_append.1 hx with hx | hx
      · exact filled.refused x hx refuses
      · rw [List.mem_singleton.1 hx] at refuses ⊢
        exact refused refuses
    exact ⟨i, acquired.append [e]⟩

/-- An event that is neither a write nor about the lock, of a call that goes on holding its lock or
    not. -/
theorem quiet (filled : f.Filled sites v stages written) {e : Event} {stage : Stage}
    (store : ∀ k t, (v.add e).store.get? t k = v.store.get? t k) (other : e.refuses f.lock = false)
    (hold : stage.hold? = (stages e.task).hold?)
    (own : f.Place (sites e.task) written (v.history ++ [e]) e.task stage) :
    f.Filled sites (v.add e) (Function.update stages e.task stage) written := by
  refine filled.add (store f.key) (fun none t ht => ?_) (fun refuses => ?_) own
  · rw [store]
    refine filled.free (fun i => ?_) t ht
    by_cases mine : i = e.task
    · rw [mine, ← hold, ← none e.task, Function.update_self]
    · rw [← none i, Function.update_of_ne mine]
  · rw [other] at refuses
    cases refuses

/-- An event that is no command, of a call that goes on holding its lock or not. -/
theorem plain (filled : f.Filled sites v stages written) {task : Nat} {before stage : Stage}
    (here : stages task = before) {effect : Effect} {answer : effect.Answer}
    (none : ∀ c, effect ≠ .command c) (hold : stage.hold? = before.hold?)
    (own : f.Place (sites task) written v.history task stage) :
    ∃ written, f.Filled sites (v.add ⟨v.now, task, effect, .perform, answer⟩)
      (Function.update stages task stage) written := by
  refine ⟨written, filled.quiet (e := ⟨v.now, task, effect, .perform, answer⟩) (fun k t => ?_) ?_
    (here ▸ hold) (own.later _)⟩
  · exact World.get?_add_of_ne v _ k (fun c hc => absurd hc (none c)) t
  · unfold Event.refuses
    split
    · next hc => exact absurd hc (none _)
    · rfl

end Filled

/-! ## Steps -/

section

variable {f : Filling} {sites : Nat → Site} {v : World} {stages : Nat → Stage}
  {written : List (Nat × Int)}

/-- What is asked of a moment of the run: the calls share their record and hold it under locks that
    exclude, each is in line, and each took its lock as it should. -/
structure Scene (f : Filling) (sites : Nat → Site) (v : World) (stages : Nat → Stage) : Prop where
  tracks : f.Tracks
  shares : ∀ i, f.Shares (sites i)
  exclusive : Exclusive sites v stages
  line : ∀ i, ∃ told, InLine (sites i) v told (stages i)
  touched : ∀ i, Touched (sites i) v.history i (stages i)
  reads : f.Reads v.history

namespace Scene

variable (scene : Scene f sites v stages) {i : Nat} {hold : Hold} {phase : Phase}

include scene

theorem ttl (i : Nat) : 1 ≤ (sites i).ttl := by
  rw [Site.ttl, (scene.shares i).config]
  exact scene.tracks.ttl

/-- A call that holds its lock acquired it this instant. -/
theorem acquired (inside : stages i = .inside hold phase) :
    hold.since = v.now ∧ AcquiredAt f.lock v.history i v.now := by
  obtain ⟨told, line⟩ := scene.line i
  rw [inside] at line
  have since := line.2.1
  refine ⟨since, ?_⟩
  have mine := ((scene.touched i).inside hold (by rw [inside]; rfl)).1
  rwa [(scene.shares i).lock, since] at mine

/-- While a call holds its lock the clocks can be read. -/
theorem readable (inside : stages i = .inside hold phase) :
    Register.Readable f.epoch f.skew v.now := by
  obtain ⟨e, he, -, time, acquires⟩ := (scene.acquired inside).2
  exact time ▸ scene.reads e he acquires

/-- The monotonic clock shows an instant. -/
theorem monotonic (inside : stages i = .inside hold phase) :
    ∃ acquired, v.monotonic = .ok acquired :=
  World.exists_monotonic (scene.readable inside).monotonic

/-- What the clock of a call under its lock shows. -/
theorem read (filled : f.Filled sites v stages written) (inside : stages i = .inside hold phase) :
    v.read (sites i).limiter.clock = .ok (f.epoch + v.now + f.skew) := by
  obtain ⟨told, line⟩ := scene.line i
  rw [inside] at line
  obtain ⟨k, clock, skew⟩ := (scene.shares i).clock
  rw [clock, World.read, filled.epoch, filled.skews, skew line.1]

/-- What a call under its lock finds, which all lies in the range of the clocks. -/
theorem finds (filled : f.Filled sites v stages written)
    (inside : stages i = .inside hold phase) :
    ∃ timestamps, Register.Finds (sites i).limiter.config v.store (sites i).key v.now
        (f.epoch + v.now + f.skew) timestamps
      ∧ (∀ n ∈ timestamps ++ [f.epoch + v.now + f.skew], inBinary64Range n)
      ∧ (f.Within v.history → (∀ e ∈ v.history, f.Near e.time v.now) →
        timestamps = written.map Prod.snd) := by
  obtain ⟨timestamps, finds, inRange, all⟩ := filled.holds.finds filled.stamps
  rw [← (scene.shares i).config, ← (scene.shares i).key] at finds
  refine ⟨timestamps, finds, fun n hn => ?_, all⟩
  rcases List.mem_append.1 hn with hn | hn
  · exact inRange n hn
  · rw [List.mem_singleton.1 hn]
    exact (scene.readable inside).limiter

end Scene

namespace Filled

variable (filled : f.Filled sites v stages written) (scene : Scene f sites v stages) {task : Nat}

include filled scene

/-- A try for the lock acquires it, or is refused while another call holds it. -/
theorem contend {token : Nat} {again : Bool} (trying : stages task = .trying token again)
    {reply : Except Failure Json}
    (answer : reply = (Command.perform v.now v.store
      (.setIfAbsent (sites task).lock (tokenText token) (sites task).ttl)).2) :
    f.Filled sites
      (v.add ⟨v.now, task, .command (.setIfAbsent (sites task).lock (tokenText token)
        (sites task).ttl), .perform, reply⟩)
      (Function.update stages task (Site.tried token v.now reply)) written := by
  have shares := scene.shares task
  have positive := scene.ttl task
  have place : task ∉ written.map Prod.fst := filled.placed trying
  have record : ∀ t, (v.add ⟨v.now, task, .command (.setIfAbsent (sites task).lock (tokenText token)
      (sites task).ttl), .perform, reply⟩).store.get? t f.key = v.store.get? t f.key := by
    refine World.get?_add_of_ne v _ _ ?_
    rintro c ⟨⟩ same
    rw [Command.key?, Option.some.injEq, shares.lock] at same
    exact scene.tracks.apart same.symm
  cases found : v.store.get? v.now (sites task).lock with
  | none =>
    have told : reply = .ok (.bool true) := by
      rw [answer, Command.perform, if_neg (by omega), found]
    have stage : Site.tried token v.now reply = .inside ⟨token, v.now⟩ .granted := by
      rw [told]
      rfl
    rw [stage]
    refine filled.add record (fun none => ?_) (fun refuses => ?_) ⟨place, rfl⟩
    · have mine := none task
      rw [Function.update_self] at mine
      cases mine
    · rw [told] at refuses
      simp [Event.refuses, Event.acquires, shares.lock, Json.truthy] at refuses
  | some entry =>
    have told : Command.perform v.now v.store
        (.setIfAbsent (sites task).lock (tokenText token) (sites task).ttl)
        = (v.store, .ok .null) := by
      rw [Command.perform, if_neg (by omega), found]
    have stage : Site.tried token v.now reply = .trying token true := by
      rw [answer, told]
      rfl
    rw [stage]
    refine filled.add record (fun none => ?_) (fun _ => ?_) place
    · intro t ht
      show (Command.perform v.now v.store _).1.get? t f.lock = _
      rw [told]
      refine filled.free (fun i => ?_) t ht
      by_cases mine : i = task
      · rw [mine, trying]
        rfl
      · rw [← none i, Function.update_of_ne mine]
    · -- Were the lock held by none, it would be free.
      by_contra unheld
      have free := filled.free (fun i => ?_) v.now (Int.le_refl _)
      · rw [shares.lock, free] at found
        cases found
      · cases hs : stages i with
        | inside hold phase => exact absurd ⟨i, (scene.acquired hs).2⟩ unheld
        | _ => rfl

/-- The read of the record finds the cap reached, or room. -/
theorem judge {hold : Hold} {acquired : Binary64} {now : Int}
    (inside : stages task = .inside hold (.timed acquired now)) {reply : Except Failure Json}
    (answer : reply = v.reply (sites task).key) :
    f.Filled sites (v.add ⟨v.now, task, .command (.get (sites task).key), .perform, reply⟩)
      (Function.update stages task (.inside hold ((sites task).judge acquired now reply)))
      written := by
  have shares := scene.shares task
  obtain ⟨told, line⟩ := scene.line task
  rw [inside] at line
  obtain ⟨timestamps, finds, inRange, all⟩ := scene.finds filled inside
  rcases line with ⟨-, -, -, ⟨⟨⟩, -⟩ | ⟨_, _, _, monotonic, clock, ⟨rfl, rfl⟩, -⟩⟩
  rw [scene.read filled inside, Except.ok.injEq] at clock
  subst clock
  have place : task ∉ written.map Prod.fst := (filled.placed inside).1
  rw [answer, Register.judge_of_finds finds]
  refine filled.quiet (e := ⟨v.now, task, .command (.get (sites task).key), .perform, _⟩)
    (fun k t => ?_) rfl (by rw [inside]; rfl) ?_
  · show (Command.perform v.now v.store _).1.get? t k = _
    rw [Command.perform_get]
  · by_cases reached : (sites task).limiter.capReached timestamps = true
    · rw [if_pos reached]
      refine Settled.limited place fun within => ?_
      have same := all within.left within.near
      rw [Limiter.capReached, decide_eq_true_eq, shares.config, same, List.length_map] at reached
      exact reached
    · rw [if_neg reached]
      exact ⟨place, Site.early_room (scene.ttl task) monotonic inRange⟩

/-- What is about to be written is the list of the timestamps that are found now and one more, and
    there is room for it. -/
theorem room {hold : Hold} {timestamps : List Int}
    (inside : stages task = .inside hold (.ready timestamps)) :
    ∃ recent, timestamps = recent ++ [f.epoch + v.now + f.skew]
      ∧ (∀ n ∈ timestamps, inBinary64Range n) ∧ ¬ f.config.cap ≤ recent.length
      ∧ (f.Within v.history → (∀ e ∈ v.history, f.Near e.time v.now) →
        recent = written.map Prod.snd) := by
  obtain ⟨told, line⟩ := scene.line task
  rw [inside] at line
  obtain ⟨recent, finds, inRange, all⟩ := scene.finds filled inside
  rcases line with ⟨-, -, -, ⟨⟨⟩, -⟩ | ⟨acquired, now, read, monotonic, clock, verdict, rest⟩⟩
  rw [scene.read filled inside, Except.ok.injEq] at clock
  subst clock
  -- What was read is what is stored, and so the section decides by the timestamps found there.
  rw [if_pos (by rfl)] at rest
  have decided := Register.verdict_of_finds (scene.ttl task) monotonic inRange finds
  rw [← rest.2, show (sites task).verdict _ _ read = _ from verdict] at decided
  split at decided
  · cases decided
  · next reached =>
    simp only [Prod.mk.injEq, Option.some.injEq, true_and] at decided
    rw [Limiter.capReached, decide_eq_true_eq, (scene.shares task).config] at reached
    subst decided
    exact ⟨recent, rfl, inRange, reached, all⟩

/-- The write of the record adds the call's timestamp to it. -/
theorem write {hold : Hold} {timestamps : List Int}
    (inside : stages task = .inside hold (.ready timestamps)) {reply : Except Failure Json}
    (answer : reply = (Command.perform v.now v.store (.set (sites task).key
      ((Window.record timestamps).write .stored) (sites task).keep)).2) :
    f.Filled sites
      (v.add ⟨v.now, task, .command (.set (sites task).key
        ((Window.record timestamps).write .stored) (sites task).keep), .perform, reply⟩)
      (Function.update stages task (.inside hold (Site.kept reply)))
      (written ++ [(task, f.epoch + v.now + f.skew)]) := by
  have shares := scene.shares task
  obtain ⟨recent, rfl, inRange, reached, all⟩ := filled.room scene inside
  have place : task ∉ written.map Prod.fst := (filled.placed inside).1
  have keep : ¬ (sites task).keep ≤ 0 := by
    rw [Site.keep, shares.config]
    have := scene.tracks.keep
    omega
  have put : ∀ text, Command.perform v.now v.store (.set (sites task).key text (sites task).keep)
      = (v.store.put (sites task).key ⟨text, some (v.now + (sites task).keep * 1000)⟩,
        .ok (.bool true)) := fun text => by
    rw [Command.perform, if_neg keep]
  rw [put] at answer
  subst answer
  refine {
    epoch := filled.epoch
    skews := filled.skews
    place := fun i => ?place
    nodup := ?nodup
    stamps := List.forall_mem_append.2 ⟨fun x hx => ?stamps, List.forall_mem_singleton.2
      ⟨_, List.mem_append_right _ (List.mem_singleton_self _), rfl⟩⟩
    few := fun within => ?few
    holds := .inr ⟨List.append_ne_nil_of_right_ne_nil _ (List.cons_ne_nil _ _), _, inRange,
      fun within => ?all, _, List.mem_append_right _ (List.mem_singleton_self _),
      fun t _ => ?stored⟩
    free := fun none => ?free
    refused := List.forall_mem_append.2 ⟨fun x hx refuses => ?refused,
      List.forall_mem_singleton.2 fun refuses => by cases refuses⟩ }
  case place =>
    by_cases mine : i = task
    · subst mine
      rw [Function.update_self]
      show i ∈ (written ++ [(i, _)]).map Prod.fst
      simp
    · rw [Function.update_of_ne mine]
      exact (filled.place i).append _ (by simpa using mine) _
  case nodup =>
    rw [List.map_append, List.nodup_append]
    refine ⟨filled.nodup, by simp, ?_⟩
    rintro a ha b hb rfl
    rw [List.map_singleton, List.mem_singleton] at hb
    rw [hb] at ha
    exact place ha
  case stamps =>
    obtain ⟨e, he, stamp⟩ := filled.stamps x hx
    exact ⟨e, List.mem_append_left _ he, stamp⟩
  case few =>
    rw [all within.left within.near, List.length_map] at reached
    rw [List.length_append, List.length_singleton]
    omega
  case all =>
    rw [all within.left within.near, List.map_append]
    rfl
  case stored =>
    show (Command.perform v.now v.store _).1.get? t f.key = _
    rw [put, shares.key, Store.get?_put, if_pos rfl, Site.keep, shares.config]
  case free =>
    have mine := none task
    rw [Function.update_self] at mine
    cases mine
  case refused =>
    obtain ⟨i, acquired⟩ := filled.refused x hx refuses
    exact ⟨i, acquired.append _⟩

/-- The release of the lock leaves it free. -/
theorem release {hold : Hold} {outcome : Except Failure Bool}
    (inside : stages task = .inside hold (.closing outcome)) {reply : Except Failure Json} :
    f.Filled sites
      (v.add ⟨v.now, task, .command (.deleteIfEqual (sites task).lock (tokenText hold.token)),
        .perform, reply⟩)
      (Function.update stages task (.finished outcome)) written := by
  have shares := scene.shares task
  have since := (scene.acquired inside).1
  have positive := scene.ttl task
  have entry := scene.exclusive.held task hold (by rw [inside]; rfl) (by omega)
  have settled := filled.placed inside
  refine filled.add (fun t => ?_) (fun _ t _ => ?_) (fun refuses => by cases refuses) ?_
  · refine World.get?_add_of_ne v _ _ ?_ t
    rintro c ⟨⟩ same
    rw [Command.key?, Option.some.injEq, shares.lock] at same
    exact scene.tracks.apart same.symm
  · show (Command.perform v.now v.store _).1.get? t f.lock = _
    rw [Command.perform, entry]
    simp [shares.lock, Store.get?_erase]
  · exact settled.later _

/-- A step of a call keeps what is known of the record, and if it writes, of one more timestamp. -/
theorem event {e : Event} {stage : Stage} (admits : v.Admits e) (perform : e.action = .perform)
    (step : (sites e.task).Step (stages e.task) e stage) :
    ∃ written, f.Filled sites (v.add e) (Function.update stages e.task stage) written := by
  obtain ⟨time, answered⟩ := admits
  obtain ⟨_, task, effect, action, answer⟩ := e
  cases perform
  cases time
  have shares := scene.shares task
  have step : (sites task).Step (stages task) ⟨v.now, task, effect, .perform, answer⟩ stage := step
  generalize hs : stages task = before at step
  have placed := filled.placed hs
  cases step with
  | log | count | pause => exact filled.plain hs (by simp) rfl (placed)
  | wait => exact filled.plain hs (by simp) rfl (placed)
  | look may =>
    rw [shares.looks] at may
    cases may
  | weigh => exact (placed).elim
  | drop may =>
    rw [shares.drops] at may
    cases may
  | draw may isOpen =>
    cases before with
    | idle => exact filled.plain hs (by simp) rfl (placed)
    | weighed => exact (placed).elim
    | _ => cases isOpen
  | contend => exact ⟨written, filled.contend scene hs answered⟩
  | @handle hold _ _ _ reading =>
    obtain ⟨acquired, monotonic⟩ := scene.monotonic hs
    have told : reading = .ok acquired := Eq.trans answered monotonic
    rw [told]
    exact filled.plain hs (by simp) rfl (placed)
  | @time hold acquired _ _ _ reading =>
    have told : reading = .ok _ := Eq.trans answered (scene.read filled hs)
    rw [told]
    exact filled.plain hs (by simp) rfl (placed)
  | judge => exact ⟨written, filled.judge scene hs answered⟩
  | @prepare hold acquired now _ recent _ _ reading =>
    obtain ⟨told, line⟩ := scene.line task
    rw [hs] at line
    rcases line with ⟨-, -, -, ⟨⟨⟩, -⟩ | ⟨_, _, _, monotonic, -, ⟨rfl, rfl, -⟩, -⟩⟩
    rw [show reading = .ok acquired from Eq.trans answered monotonic]
    obtain ⟨place, early⟩ := placed
    cases prepared : (sites task).prepare acquired (recent ++ [now]) (.ok acquired) with
    | ready timestamps => exact filled.plain hs (by simp) rfl ⟨place, rfl⟩
    | _ => simp [Site.early, prepared] at early
  | write => exact ⟨_, filled.write scene hs answered⟩
  | allow =>
    refine ⟨written, filled.quiet (e := ⟨v.now, task, _, .perform, _⟩)
      (fun k t => World.get?_add_of_ne v _ k (by simp) t) rfl (by rw [hs]; rfl) ?_⟩
    exact .allowed (placed) ⟨_, List.mem_append_right _ (List.mem_singleton_self _), rfl,
      rfl⟩
  | @release hold outcome _ _ _ reply =>
    have told : Site.released outcome reply = outcome := by
      cases reply with
      | ok reply => rfl
      | error g =>
        have answered : (.error g : Except Failure Json) = (Command.perform v.now v.store
          (.deleteIfEqual (sites task).lock (tokenText hold.token))).2 := answered
        rw [Command.eq_invalidExpiry (Prod.ext rfl answered.symm)]
        rfl
    rw [told]
    exact ⟨written, filled.release scene hs⟩

end Filled

end

/-! ## The whole run -/

/-- What is kept throughout a run, as long as the clocks can be read. -/
theorem keeps {f : Filling} {instances : Instances} {calls : List Delayed} {s : System} {q : Site}
    (counting : ∀ call ∈ calls, call.2.Counting)
    (plain : Plain instances calls (Call.siteAt instances calls q)) (tracks : f.Tracks)
    (shares : ∀ i, f.Shares (Call.siteAt instances calls q i)) :
    (Call.regime instances calls q Schedule.prompt (· = .perform)).Keeps fun v stages =>
      (Linear instances calls s (Call.siteAt instances calls q) v stages
        ∧ ∀ i, Touched (Call.siteAt instances calls q i) v.history i (stages i))
      ∧ (f.Reads v.history →
        ∃ written, f.Filled (Call.siteAt instances calls q) v stages written) where
  perform := rfl
  event := by
    intro v stages e stage inv admits perform step
    obtain ⟨⟨linear, touched⟩, filled⟩ := inv
    refine ⟨(linear_keeps counting plain).event v stages e stage ⟨linear, touched⟩ admits perform
      step, fun reads => ?_⟩
    have before : f.Reads v.history := fun x hx => reads x (List.mem_append_left _ hx)
    obtain ⟨written, filled⟩ := filled before
    exact filled.event ⟨tracks, shares, linear.exclusive, fun i => ⟨_, linear.line i⟩, touched,
      before⟩ admits perform step
  pass := by
    intro c h stages t inv rest later may
    refine ⟨(linear_keeps counting plain).pass c h stages t inv.1 rest later may, fun reads => ?_⟩
    obtain ⟨written, filled⟩ := inv.2 reads
    exact ⟨written, filled.pass later⟩
  outside := fun _ _ _ _ _ _ change => change.elim

end Filling

end Turnstile

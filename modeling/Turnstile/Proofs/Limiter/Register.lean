import Mathlib.Logic.Function.Basic
import Turnstile.Proofs.Limiter.Alone

set_option autoImplicit false

/-! # A register of attempts

What a sequential run of calls is compared with: a machine that keeps under each key a plain list of
timestamps, which it never prunes and which never expires (`Register`). Instances that share one
configuration and show the same time come to the register's results, call by call
(`Register.results_eq`). A run and its register are held together by what a limiter finds under a
key, now and at any later instant (`Register.Stands`). -/

namespace Turnstile

/-! ## Moves -/

/-- A step of a sequential run: a call on the limiter or the guard, or some time that passes. -/
inductive Move where
  | record (i : Nat) (world subject : String)
  | isLimited (i : Nat) (world subject : String)
  | clear (world subject : String)
  | check (i : Nat) (requestId world subject : String) (plain hashed : Option String)
  | wait (ms : Int)

namespace Move

/-- The move as a call of a session. -/
def call : Move → Call
  | .record i world subject => .record i world subject
  | .isLimited i world subject => .isLimited i world subject
  | .clear world subject => .clear world subject
  | .check i requestId world subject plain hashed =>
    .check i requestId world subject (.textOrNull plain) (.textOrNull hashed)
  | .wait ms => .wait ms

/-- The number of the instance that makes the move. -/
def index? : Move → Option Nat
  | .record i .. | .isLimited i .. | .check i .. => some i
  | .clear .. | .wait _ => none

/-- The key of the record that the move is about. -/
def key? : Move → Option String
  | .record _ world subject | .isLimited _ world subject | .clear world subject
  | .check _ _ world subject .. => some (attemptsKey world subject)
  | .wait _ => none

/-- The key of the lock that the move may take. -/
def lock? : Move → Option String
  | .record _ world subject | .check _ _ world subject .. => some (lockKey world subject)
  | .isLimited .. | .clear .. | .wait _ => none

/-- The instant after the move. -/
def after (t : Int) : Move → Int
  | .wait ms => t + max 0 ms
  | _ => t

/-- The instants at which attempts may be recorded, from an instant on. -/
def instants (t : Int) : List Move → List Int
  | [] => []
  | .record .. :: rest | .check .. :: rest => t :: instants t rest
  | .isLimited .. :: rest | .clear .. :: rest => instants t rest
  | .wait ms :: rest => instants (t + max 0 ms) rest

end Move

/-! ## The register -/

/-- What the clocks show, and under each key the timestamps of attempts. -/
structure Register where
  now : Int
  attempts : String → List Int

namespace Register

/-- Put timestamps under a key. -/
def put (r : Register) (key : String) (timestamps : List Int) : Register :=
  { r with attempts := Function.update r.attempts key timestamps }

@[simp] theorem attempts_put_self (r : Register) (key : String) (timestamps : List Int) :
    (r.put key timestamps).attempts key = timestamps := by
  simp [put]

@[simp] theorem attempts_put_of_ne (r : Register) {key k : String} (other : k ≠ key)
    (timestamps : List Int) : (r.put key timestamps).attempts k = r.attempts k := by
  simp [put, other]

/-- Add an attempt that is made now. -/
def add (r : Register) (key : String) : Register := r.put key (r.attempts key ++ [r.now])

variable (config : LimiterConfig)

/-- The window holds as many attempts as the cap allows. -/
def limited (r : Register) (key : String) : Bool :=
  config.cap ≤ ((r.attempts key).filter (r.now - 1000 * config.windowSeconds < ·)).length

/-- What a move does to the register and comes to. -/
def step (r : Register) : Move → Register × CallResult
  | .record _ world subject =>
    let key := attemptsKey world subject
    if r.limited config key then (r, .flag true) else (r.add key, .flag false)
  | .isLimited _ world subject => (r, .flag (r.limited config (attemptsKey world subject)))
  | .clear world subject => (r.put (attemptsKey world subject) [], .nothing)
  | .check _ _ world subject plain hashed =>
    let key := attemptsKey world subject
    if r.limited config key then (r, .failed (.rateLimited world))
    else if Bcrypt.verify Bcrypt.digest plain hashed then (r.put key [], .flag true)
    else (r.add key, .flag false)
  | .wait ms => ({ r with now := r.now + max 0 ms }, .nothing)

/-- What moves come to that are made one after the other. -/
def results : Register → List Move → List CallResult
  | _, [] => []
  | r, move :: rest => (r.step config move).2 :: results (r.step config move).1 rest

/-! ## What is found under a key -/

/-- A limiter that reads the record under a key at an instant, at which its clock shows `now`, finds
    these timestamps in its window. -/
def Finds (s : Store) (key : String) (t now : Int) (timestamps : List Int) : Prop :=
  ∃ value, ((Command.perform t s (.get key)).2).bind Cache.valueOf = .ok value
    ∧ Window.recent (Window.attempts value) now config.windowSeconds = .ok timestamps

variable {config}

theorem Finds.congr {s s' : Store} {key : String} {t now : Int} {timestamps : List Int}
    (finds : Finds config s key t now timestamps) (same : s'.get? t key = s.get? t key) :
    Finds config s' key t now timestamps := by
  obtain ⟨value, told, recent⟩ := finds
  refine ⟨value, ?_, recent⟩
  rw [Command.perform] at told ⊢
  rw [same]
  cases found : s.get? t key <;> simpa only [found] using told

/-- Where there is no record no attempts are found. -/
theorem finds_nil {s : Store} {key : String} {t : Int} (now : Int) (absent : s.get? t key = none) :
    Finds config s key t now [] := by
  refine ⟨.null, ?_, rfl⟩
  rw [Command.perform, absent]
  rfl

/-- In a record of timestamps, each in the range of binary64 numbers, those in the window are
    found. -/
theorem finds_record {s : Store} {key : String} {t : Int} (now : Int) {timestamps : List Int}
    (inRange : ∀ n ∈ timestamps, inBinary64Range n) {expiry : Option Int}
    (found : s.get? t key = some ⟨(Window.record timestamps).write .stored, expiry⟩) :
    Finds config s key t now
      (timestamps.filter (Window.start now config.windowSeconds < ·)) := by
  refine ⟨Window.record timestamps, ?_, ?_⟩
  · rw [Command.perform, found]
    exact Cache.valueOf_record (Json.integersFit_record_of_inRange inRange)
  · exact Window.later_int_of_inRange inRange

/-- A look that finds timestamps answers whether they reach the cap. -/
theorem glance_of_finds {p : Site} {v : World} {now : Int} {timestamps : List Int}
    (finds : Finds p.limiter.config v.store p.key v.now now timestamps) :
    p.glance (v.reply p.key) (.ok now) = .weighed (p.limiter.capReached timestamps) := by
  obtain ⟨value, told, recent⟩ := finds
  have looked : Site.seen (v.reply p.key) = .looked value := by
    unfold Site.seen World.reply
    rw [told]
  have weighed : (Except.ok now).bind (p.limiter.recent value) = .ok timestamps := recent
  rw [Site.glance, looked]
  show p.weigh value (.ok now) = _
  rw [Site.weigh, weighed]

/-- A locked section that finds timestamps adds to them unless they reach the cap. Its lock has not
    run out, as no time has passed. -/
theorem verdict_of_finds {p : Site} {v : World} {acquired : Binary64} {now : Int}
    {timestamps : List Int} (ttl : 1 ≤ p.ttl) (monotonic : v.monotonic = .ok acquired)
    (inRange : ∀ n ∈ timestamps ++ [now], inBinary64Range n)
    (finds : Finds p.limiter.config v.store p.key v.now now timestamps) :
    p.verdict acquired now (v.reply p.key)
      = if p.limiter.capReached timestamps then (.ok true, none)
      else (.ok false, some (timestamps ++ [now])) := by
  obtain ⟨value, told, recent⟩ := finds
  have stored : Site.stored (v.reply p.key) = .ok value := by
    unfold Site.stored World.reply
    rw [told]
  have found : (Except.ok value).bind (fun value => p.limiter.recent value now)
      = .ok timestamps := recent
  rw [Site.verdict, stored, found]
  simp only [World.not_reaches monotonic ttl, Json.integersFit_record_of_inRange inRange]
  rfl

/-! ## Windows that move on -/

/-- What an earlier window leaves out a later one does. -/
theorem filter_later (timestamps : List Int) {a b : Int} (later : a ≤ b) :
    (timestamps.filter (a < ·)).filter (b < ·) = timestamps.filter (b < ·) := by
  rw [List.filter_filter]
  refine List.filter_congr fun n _ => ?_
  have implied : b < n → a < n := fun h => Int.lt_of_le_of_lt later h
  by_cases h : b < n <;> simp [h, implied]

/-- Timestamps up to `now` that are in the record at an instant `t₀`, when the clock shows `now`,
    together with `now` itself: as long as they are kept, and when they have expired, a limiter
    finds those in its window. The record has left out what the window at `t₀` did. -/
theorem finds_written {p : Site} {s : Store} {t₀ now : Int} {timestamps : List Int}
    (keep : max 1 p.limiter.config.windowSeconds ≤ p.keep)
    (past : ∀ n ∈ timestamps ++ [now], n ≤ now)
    (inRange : ∀ n ∈ timestamps ++ [now], inBinary64Range n) {t : Int} (later : t₀ ≤ t) :
    Finds p.limiter.config
      (p.written t₀ s (some (timestamps.filter
        (Window.start now p.limiter.config.windowSeconds < ·) ++ [now])))
      p.key t (now + (t - t₀)) ((timestamps ++ [now]).filter
        (Window.start (now + (t - t₀)) p.limiter.config.windowSeconds < ·)) := by
  generalize hW : p.limiter.config.windowSeconds = W at keep
  generalize hkept : timestamps.filter (Window.start now W < ·) ++ [now] = kept
  have written := p.get?_written_self (by omega) t₀ s kept t
  by_cases live : t < t₀ + p.keep * 1000
  · -- The record is there, and the later window drops what it has left out.
    have same : kept.filter (Window.start (now + (t - t₀)) W < ·)
        = (timestamps ++ [now]).filter (Window.start (now + (t - t₀)) W < ·) := by
      have moved : Window.start now W ≤ Window.start (now + (t - t₀)) W := by
        unfold Window.start
        omega
      rw [← hkept, List.filter_append, List.filter_append, filter_later timestamps moved]
    have among : ∀ n ∈ kept, n ∈ timestamps ++ [now] := by
      intro n hn
      rw [← hkept] at hn
      rcases List.mem_append.1 hn with hn | hn
      · exact List.mem_append_left _ (List.mem_filter.1 hn).1
      · exact List.mem_append_right _ hn
    rw [Option.filter_some, if_pos (by simpa [Entry.isLive] using live)] at written
    rw [← same, ← hW]
    exact finds_record _ (fun n hn => inRange n (among n hn)) written
  · -- The record is gone, and so is all that it held from the window.
    have empty : (timestamps ++ [now]).filter (Window.start (now + (t - t₀)) W < ·) = [] := by
      refine List.filter_eq_nil_iff.2 fun n hn => ?_
      have := past n hn
      have gone : ¬ Window.start (now + (t - t₀)) W < n := by
        unfold Window.start
        omega
      simpa using gone
    rw [empty]
    refine finds_nil _ ?_
    rw [written, Option.filter_some, if_neg]
    simpa [Entry.isLive] using live

/-! ## A run and its register -/

/-- The clocks can be read at an instant, and what a limiter's clock shows is in the range of
    binary64 numbers. -/
structure Readable (epoch skew t : Int) : Prop where
  limiter : inBinary64Range (epoch + t + skew)
  monotonic : MonotonicReadable t

/-- Records outlast the window, and a free lock is always acquired. -/
structure Lasting (config : LimiterConfig) : Prop where
  keep : max 1 config.windowSeconds ≤ config.recordSeconds
  ttl : 1 ≤ config.lock.ttl
  retries : 0 ≤ config.lock.retries

/-- A system and a register stand alike: all locks are free, and under each key a limiter finds, now
    and at any later instant, those of the register's timestamps that lie in its window. -/
structure Stands (config : LimiterConfig) (skew : Int) (keys locks : String → Prop) (s : System)
    (r : Register) : Prop where
  noFault : s.faults = []
  now : r.now = s.epoch + s.elapsed + skew
  past : ∀ k, ∀ n ∈ r.attempts k, n ≤ r.now
  inRange : ∀ k, ∀ n ∈ r.attempts k, inBinary64Range n
  free : ∀ k, locks k → s.get? k = none
  finds : ∀ k, keys k → ∀ t, s.elapsed ≤ t → Finds config s.store k t (s.epoch + t + skew)
    ((r.attempts k).filter (Window.start (s.epoch + t + skew) config.windowSeconds < ·))

namespace Stands

variable {skew : Int} {keys locks : String → Prop} {s s' : System} {r : Register}

/-- Logs and traces do not matter. -/
theorem observe (stands : Stands config skew keys locks s r) (trace : List TraceEntry)
    (logs : List LogEntry) :
    Stands config skew keys locks { s with trace := trace, logs := logs } r :=
  ⟨stands.noFault, stands.now, stands.past, stands.inRange, stands.free, stands.finds⟩

/-- Time that passes. -/
theorem wait (stands : Stands config skew keys locks s r) (ms : Int) :
    Stands config skew keys locks (s.wait ms) { r with now := r.now + max 0 ms } := by
  have later : s.elapsed ≤ s.elapsed + max 0 ms := by omega
  refine ⟨stands.noFault, ?_, ?_, stands.inRange, ?_, ?_⟩
  · have := stands.now
    show r.now + max 0 ms = s.epoch + (s.elapsed + max 0 ms) + skew
    omega
  · intro k n hn
    have := stands.past k n hn
    show n ≤ r.now + max 0 ms
    omega
  · intro k hk
    exact Store.get?_eq_none_later later (stands.free k hk)
  · intro k hk t ht
    exact stands.finds k hk t (Int.le_trans later ht)

/-- A call that leaves the records as they are. -/
theorem keep (stands : Stands config skew keys locks s r)
    (same : (World.of s' []).SameTime (.of s [])) (noFault : s'.faults = [])
    (free : ∀ k, locks k → s'.get? k = none)
    (records : ∀ k, keys k → ∀ t, s'.store.get? t k = s.store.get? t k) :
    Stands config skew keys locks s' r := by
  have epoch : s'.epoch = s.epoch := same.epoch
  have elapsed : s'.elapsed = s.elapsed := same.now
  refine ⟨noFault, ?_, stands.past, stands.inRange, free, ?_⟩
  · rw [epoch, elapsed]
    exact stands.now
  · intro k hk t ht
    rw [elapsed] at ht
    rw [epoch]
    exact (stands.finds k hk t ht).congr (records k hk t)

/-- A call that changes the record under one key. -/
theorem put (stands : Stands config skew keys locks s r)
    (same : (World.of s' []).SameTime (.of s [])) (noFault : s'.faults = [])
    (free : ∀ k, locks k → s'.get? k = none) {key : String} {timestamps : List Int}
    (past : ∀ n ∈ timestamps, n ≤ r.now) (inRange : ∀ n ∈ timestamps, inBinary64Range n)
    (others : ∀ k, keys k → k ≠ key → ∀ t, s'.store.get? t k = s.store.get? t k)
    (own : ∀ t, s.elapsed ≤ t → Finds config s'.store key t (s.epoch + t + skew)
      (timestamps.filter (Window.start (s.epoch + t + skew) config.windowSeconds < ·))) :
    Stands config skew keys locks s' (r.put key timestamps) := by
  have epoch : s'.epoch = s.epoch := same.epoch
  have elapsed : s'.elapsed = s.elapsed := same.now
  refine ⟨noFault, ?_, ?_, ?_, free, ?_⟩
  · rw [epoch, elapsed]
    exact stands.now
  · intro k n hn
    by_cases hk : k = key
    · rw [hk, attempts_put_self] at hn
      exact past n hn
    · rw [attempts_put_of_ne r hk] at hn
      exact stands.past k n hn
  · intro k n hn
    by_cases hk : k = key
    · rw [hk, attempts_put_self] at hn
      exact inRange n hn
    · rw [attempts_put_of_ne r hk] at hn
      exact stands.inRange k n hn
  · intro k hk t ht
    rw [elapsed] at ht
    rw [epoch]
    by_cases own' : k = key
    · rw [own', attempts_put_self]
      exact own t ht
    · rw [attempts_put_of_ne r own']
      exact (stands.finds k hk t ht).congr (others k hk own' t)

/-- After a call that changes nothing but the record under a key, and gives locks back, all locks
    are free. -/
theorem free_after (stands : Stands config skew keys locks s r)
    (same : (World.of s' []).SameTime (.of s [])) {key : String} (used : keys key)
    (apart : ∀ k, keys k → ¬locks k)
    (others : ∀ k, k ≠ key → ∀ t, s'.store.get? t k = none
      ∨ s'.store.get? t k = s.store.get? t k) : ∀ k, locks k → s'.get? k = none := by
  intro k hk
  have elapsed : s'.elapsed = s.elapsed := same.now
  have other : k ≠ key := by
    intro h
    rw [h] at hk
    exact apart _ used hk
  rw [System.get?, elapsed]
  rcases others k other s.elapsed with gone | unchanged
  · exact gone
  · rw [unchanged]
    exact stands.free k hk

/-- An attempt that is made now joins timestamps that are not later, all in the range of binary64
    numbers. -/
theorem bounds (stands : Stands config skew keys locks s r)
    (readable : Readable s.epoch skew s.elapsed) (key : String) :
    ∀ n ∈ r.attempts key ++ [r.now], n ≤ r.now ∧ inBinary64Range n := by
  intro n hn
  rcases List.mem_append.1 hn with hn | hn
  · exact ⟨stands.past _ n hn, stands.inRange _ n hn⟩
  · rw [List.mem_singleton.1 hn]
    refine ⟨Int.le_refl _, ?_⟩
    rw [stands.now]
    exact readable.limiter

/-- What a limiter finds now. -/
theorem finds_now (stands : Stands config skew keys locks s r) {key : String} (used : keys key) :
    Finds config s.store key s.elapsed r.now
      ((r.attempts key).filter (Window.start r.now config.windowSeconds < ·)) := by
  rw [stands.now]
  exact stands.finds key used s.elapsed (Int.le_refl _)

end Stands

theorem limited_eq (r : Register) (key : String) : r.limited config key = decide (config.cap
    ≤ ((r.attempts key).filter (Window.start r.now config.windowSeconds < ·)).length) := by
  rw [limited, Int.mul_comm]
  rfl

theorem step_record (r : Register) (i : Nat) (world subject : String) :
    r.step config (.record i world subject)
      = (if r.limited config (attemptsKey world subject) then r
          else r.add (attemptsKey world subject),
        .flag (r.limited config (attemptsKey world subject))) := by
  simp only [step]
  cases r.limited config (attemptsKey world subject) <;> rfl

/-! ## Call by call -/

namespace Stands

variable {p : Site} {skew : Int} {keys locks : String → Prop} {s s' : System} {r : Register}
  {task : Nat}

/-- A look answers as the register does. -/
theorem isLimited (stands : Stands p.limiter.config skew keys locks s r) (looks : p.looks)
    (only : p.records = false ∧ p.drops = false)
    (clock : (World.of s []).read p.limiter.clock = .ok r.now) (used : keys p.key)
    {result : Except Failure Bool}
    (run : (p.limiter.isLimited p.world p.subject).run.run task s = (s', result)) :
    result = .ok (r.limited p.limiter.config p.key)
      ∧ (World.of s' []).SameTime (.of s [])
      ∧ Stands p.limiter.config skew keys locks s' r := by
  obtain ⟨same, noFault, store, ends⟩ := Site.isLimited_run stands.noFault looks only run
  have glance := @glance_of_finds p (.of s []) _ _ (stands.finds_now used)
  rw [clock, glance] at ends
  refine ⟨?_, same, stands.keep same noFault ?_ ?_⟩
  · rw [limited_eq]
    cases ends
    rfl
  · intro k hk
    have elapsed : s'.elapsed = s.elapsed := same.now
    rw [System.get?, store, elapsed]
    exact stands.free k hk
  · intro k _ t
    rw [store]

/-- A record call answers as the register does, and adds the attempt where the register does. -/
theorem record (stands : Stands p.limiter.config skew keys locks s r)
    (lasting : Lasting p.limiter.config) (records : p.records)
    (only : p.looks = false ∧ p.drops = false)
    (clock : (World.of s []).read p.limiter.clock = .ok r.now)
    (readable : Readable s.epoch skew s.elapsed) (used : keys p.key) (lock : locks p.lock)
    (apart : ∀ k, keys k → ¬locks k) {result : Except Failure Bool}
    (run : (p.limiter.recordFailure p.world p.subject).run.run task s = (s', result)) :
    result = .ok (r.limited p.limiter.config p.key) ∧ (World.of s' []).SameTime (.of s [])
      ∧ Stands p.limiter.config skew keys locks s'
          (if r.limited p.limiter.config p.key then r else r.add p.key) := by
  have bounds := stands.bounds readable p.key
  obtain ⟨seconds, monotonic⟩ := (World.of s []).exists_monotonic readable.monotonic
  have ne : p.key ≠ p.lock := by
    intro h
    rw [h] at used
    exact apart _ used lock
  have ttl : 1 ≤ p.ttl := lasting.ttl
  obtain ⟨same, noFault, told, free, changed⟩ := Site.recordFailure_run stands.noFault records only
    (stands.free _ lock) ttl lasting.retries ne monotonic clock run
  -- The verdict writes to nothing but the record.
  have others : ∀ k, k ≠ p.key → k ≠ p.lock → ∀ t,
      s'.store.get? t k = s.store.get? t k := by
    intro k hk hl t
    rw [changed k hl, Site.get?_written_of_ne p hk]
  have free' : ∀ k, locks k → s'.get? k = none := by
    refine stands.free_after same used apart fun k hk t => ?_
    by_cases own : k = p.lock
    · rw [own]
      exact .inl (free t)
    · exact .inr (others k hk own t)
  have unlocked : ∀ k, keys k → k ≠ p.lock := by
    intro k hk h
    rw [h] at hk
    exact apart _ hk lock
  have verdict := @verdict_of_finds p (.of s []) seconds r.now _ ttl monotonic
    (fun n hn => (bounds n (List.mem_append.2 ((List.mem_append.1 hn).imp_left
      fun hn => (List.mem_filter.1 hn).1))).2) (stands.finds_now used)
  rw [Limiter.capReached, ← limited_eq] at verdict
  cases limited : r.limited p.limiter.config p.key with
  | true =>
    -- Nothing was written.
    rw [limited, if_pos rfl] at verdict
    rw [verdict] at told changed
    rw [if_pos rfl]
    exact ⟨told, same, stands.keep same noFault free' fun k hk => changed k (unlocked k hk)⟩
  | false =>
    rw [limited, if_neg (by simp)] at verdict
    rw [verdict] at told changed
    rw [if_neg (by simp)]
    refine ⟨told, same, stands.put same noFault free' (fun n hn => (bounds n hn).1)
      (fun n hn => (bounds n hn).2) (fun k hk own => others k own (unlocked k hk)) ?_⟩
    intro t ht
    have now : s.epoch + t + skew = r.now + (t - s.elapsed) := by
      have := stands.now
      omega
    rw [now]
    have found := @finds_written p s.store s.elapsed r.now (r.attempts p.key) lasting.keep
      (fun n hn => (bounds n hn).1) (fun n hn => (bounds n hn).2) t ht
    exact found.congr (changed _ ne t)

/-- A call that clears a record drops what the register drops. -/
theorem clear (stands : Stands p.limiter.config skew keys locks s r) (drops : p.drops)
    (only : p.looks = false ∧ p.records = false) (used : keys p.key)
    (apart : ∀ k, keys k → ¬locks k) {result : Except Failure Unit}
    (run : (Limiter.clear p.world p.subject).run.run task s = (s', result)) :
    result = .ok () ∧ (World.of s' []).SameTime (.of s [])
      ∧ Stands p.limiter.config skew keys locks s' (r.put p.key []) := by
  obtain ⟨same, noFault, told, store⟩ := Site.clear_run stands.noFault drops only run
  have others : ∀ k, k ≠ p.key → ∀ t, s'.store.get? t k = s.store.get? t k := by
    intro k hk t
    rw [store]
    refine Command.get?_perform_of_ne _ t _ _ k fun h => hk ?_
    exact (Option.some.inj h).symm
  have free := stands.free_after same used apart fun k hk t => .inr (others k hk t)
  refine ⟨told, same, stands.put same noFault free (by simp) (by simp) (fun k _ => others k) ?_⟩
  intro t ht
  refine finds_nil _ ?_
  rw [store]
  exact Site.get?_delete _ _ _ ht

/-- A check that has come to its answer notes it, which takes no time. -/
theorem audited {world outcome requestId : String} (answer : Except Failure Bool)
    {result : Except Failure Bool}
    (run : (Guard.audit world outcome requestId >>= fun _ => Routine.ofExcept answer).run.run task s
      = (s', result)) : result = answer ∧ ∃ logs, s' = { s with logs := logs } := by
  rw [Guard.audit, Routine.run_bind, Routine.run_log] at run
  cases run
  exact ⟨rfl, _, rfl⟩

/-- A check comes to what the register says. A subject that was not over its cap when it was looked
    at is not when its attempt is recorded, so that it is never turned away then. -/
theorem check {lim : Limiter} {world subject : String}
    (stands : Stands lim.config skew keys locks s r) (lasting : Lasting lim.config)
    (clock : (World.of s []).read lim.clock = .ok r.now)
    (readable : Readable s.epoch skew s.elapsed) (used : keys (attemptsKey world subject))
    (lock : locks (lockKey world subject)) (apart : ∀ k, keys k → ¬locks k) (i : Nat)
    {requestId : String} {plain hashed : Option String} {result : Except Failure Bool}
    (run : (Guard.check lim requestId world subject (.textOrNull plain)
      (.textOrNull hashed)).run.run task s = (s', result)) :
    CallResult.ofExcept (result.map .flag)
        = (r.step lim.config (.check i requestId world subject plain hashed)).2
      ∧ (World.of s' []).SameTime (.of s [])
      ∧ Stands lim.config skew keys locks s'
          (r.step lim.config (.check i requestId world subject plain hashed)).1 := by
  rw [Guard.check, Routine.run_bind] at run
  generalize look : (lim.isLimited world subject).run.run task s = looked at run
  obtain ⟨s₁, told⟩ := looked
  obtain ⟨rfl, same, stands₁⟩ := isLimited
    (p := ⟨lim, world, subject, true, false, false⟩) stands rfl ⟨rfl, rfl⟩ clock used look
  have clock₁ : (World.of s₁ []).read lim.clock = .ok r.now := by
    rw [same.read]
    exact clock
  have readable₁ : Readable s₁.epoch skew s₁.elapsed := by
    have epoch : s₁.epoch = s.epoch := same.epoch
    have elapsed : s₁.elapsed = s.elapsed := same.now
    rw [epoch, elapsed]
    exact readable
  simp only [Register.step]
  cases limited : r.limited lim.config (attemptsKey world subject) with
  | true =>
    have limited' : r.limited lim.config (Site.key ⟨lim, world, subject, true, false, false⟩)
        = true := limited
    rw [limited'] at run
    obtain ⟨rfl, logs, rfl⟩ := audited (.error (.rateLimited world)) run
    exact ⟨rfl, same, stands₁.observe _ _⟩
  | false =>
    have limited' : r.limited lim.config (Site.key ⟨lim, world, subject, true, false, false⟩)
        = false := limited
    rw [limited', Guard.matching_textOrNull] at run
    cases verified : Bcrypt.verify Bcrypt.digest plain hashed with
    | true =>
      rw [verified] at run
      have run : (Limiter.clear world subject >>= fun _ => Guard.audit world "true" requestId
          >>= fun _ => (pure true : Routine Bool)).run.run task s₁ = (s', result) := run
      rw [Routine.run_bind] at run
      generalize drop : (Limiter.clear world subject).run.run task s₁ = dropped at run
      obtain ⟨s₂, told⟩ := dropped
      obtain ⟨rfl, same₂, stands₂⟩ := clear
        (p := ⟨lim, world, subject, false, false, true⟩) stands₁ rfl ⟨rfl, rfl⟩ used apart drop
      obtain ⟨rfl, logs, rfl⟩ := audited (.ok true) run
      exact ⟨rfl, same₂.trans same, stands₂.observe _ _⟩
    | false =>
      -- The look and the recording find the same, as nothing was written in between.
      rw [verified] at run
      have run : (lim.recordFailure world subject >>= fun capped =>
          if capped then Guard.refuse world requestId
          else Guard.audit world "false reason=invalid" requestId
            >>= fun _ => (pure false : Routine Bool)).run.run task s₁ = (s', result) := run
      rw [Routine.run_bind] at run
      generalize attempt : (lim.recordFailure world subject).run.run task s₁ = recorded at run
      obtain ⟨s₂, told⟩ := recorded
      obtain ⟨rfl, same₂, stands₂⟩ := record
        (p := ⟨lim, world, subject, false, true, false⟩) stands₁ lasting rfl ⟨rfl, rfl⟩ clock₁
        readable₁ used lock apart attempt
      have limited' : r.limited lim.config (Site.key ⟨lim, world, subject, false, true, false⟩)
          = false := limited
      rw [limited'] at run stands₂
      obtain ⟨rfl, logs, rfl⟩ := audited (.ok false) run
      exact ⟨rfl, same₂.trans same, stands₂.observe _ _⟩

/-- A move comes to what the register says. -/
theorem step {instances : Instances} {config : LimiterConfig} {move : Move}
    (stands : Stands config skew keys locks s r) (lasting : Lasting config)
    (shared : ∀ i, move.index? = some i →
      (instances.limiter i).config = config ∧ s.skews.getD i 0 = skew)
    (readable : ∀ t ∈ Move.instants s.elapsed [move], Readable s.epoch skew t)
    (used : ∀ k, move.key? = some k → keys k) (lock : ∀ k, move.lock? = some k → locks k)
    (apart : ∀ k, keys k → ¬locks k) {result : CallResult}
    (run : Step.run instances s (.call move.call) = (s', result)) :
    result = (r.step config move).2
      ∧ (World.of s' []).SameTime ((World.of s []).atTime (move.after s.elapsed))
      ∧ Stands config skew keys locks s' (r.step config move).1 := by
  have clock : ∀ i, move.index? = some i →
      (World.of s []).read (instances.limiter i).clock = .ok r.now := by
    intro i hi
    rw [stands.now, ← (shared i hi).2]
    rfl
  -- Each move runs the routine of its own lemma, and its result is that routine's.
  cases move with
  | record i world subject =>
    obtain ⟨rfl, -⟩ := shared i rfl
    generalize hr : ((instances.limiter i).recordFailure world subject).run.run 0 s = done
    obtain ⟨s₁, told⟩ := done
    have ran : Step.run instances s (.call (.record i world subject))
        = (s₁, .ofExcept (told.map .flag)) := by
      simp only [Step.run, Call.routine, Routine.run_map, hr]
    cases ran.symm.trans run
    obtain ⟨rfl, same, stands'⟩ := record
      (p := ⟨instances.limiter i, world, subject, false, true, false⟩) stands lasting rfl ⟨rfl, rfl⟩
      (clock i rfl) (readable _ List.mem_cons_self) (used _ rfl) (lock _ rfl) apart hr
    rw [step_record]
    exact ⟨rfl, same, stands'⟩
  | isLimited i world subject =>
    obtain ⟨rfl, -⟩ := shared i rfl
    generalize hr : ((instances.limiter i).isLimited world subject).run.run 0 s = done
    obtain ⟨s₁, told⟩ := done
    have ran : Step.run instances s (.call (.isLimited i world subject))
        = (s₁, .ofExcept (told.map .flag)) := by
      simp only [Step.run, Call.routine, Routine.run_map, hr]
    cases ran.symm.trans run
    obtain ⟨rfl, same, stands'⟩ := isLimited
      (p := ⟨instances.limiter i, world, subject, true, false, false⟩) stands rfl ⟨rfl, rfl⟩
      (clock i rfl) (used _ rfl) hr
    exact ⟨rfl, same, stands'⟩
  | clear world subject =>
    generalize hr : (Limiter.clear world subject).run.run 0 s = done
    obtain ⟨s₁, told⟩ := done
    have ran : Step.run instances s (.call (.clear world subject))
        = (s₁, .ofExcept (told.map fun _ => .nothing)) := by
      simp only [Step.run, Call.routine, Routine.run_map, hr]
    cases ran.symm.trans run
    obtain ⟨rfl, same, stands'⟩ := clear
      (p := ⟨⟨config, .system⟩, world, subject, false, false, true⟩) stands rfl ⟨rfl, rfl⟩
      (used _ rfl) apart hr
    exact ⟨rfl, same, stands'⟩
  | check i requestId world subject plain hashed =>
    obtain ⟨rfl, -⟩ := shared i rfl
    generalize hr : (Guard.check (instances.limiter i) requestId world subject (.textOrNull plain)
      (.textOrNull hashed)).run.run 0 s = done
    obtain ⟨s₁, told⟩ := done
    have ran : Step.run instances s
        (.call (.check i requestId world subject (.textOrNull plain) (.textOrNull hashed)))
        = (s₁, .ofExcept (told.map .flag)) := by
      simp only [Step.run, Call.routine, Routine.run_map, hr]
    cases ran.symm.trans run
    exact stands.check lasting (clock i rfl) (readable _ List.mem_cons_self) (used _ rfl)
      (lock _ rfl) apart i hr
  | wait ms =>
    cases run
    exact ⟨rfl, ⟨rfl, rfl, rfl⟩, stands.wait ms⟩

end Stands

/-! ## Sequential runs -/

theorem instants_cons (t : Int) (move : Move) (rest : List Move) :
    Move.instants t (move :: rest)
      = Move.instants t [move] ++ Move.instants (move.after t) rest := by
  cases move <;> rfl

/-- A system and a register that stand alike come to the same results, move by move. -/
theorem Stands.results {instances : Instances} {config : LimiterConfig} {skew : Int}
    {keys locks : String → Prop} (lasting : Lasting config) (apart : ∀ k, keys k → ¬locks k)
    {moves : List Move} {s : System} {r : Register} (stands : Stands config skew keys locks s r)
    (shared : ∀ move ∈ moves, ∀ i, move.index? = some i →
      (instances.limiter i).config = config ∧ s.skews.getD i 0 = skew)
    (readable : ∀ t ∈ Move.instants s.elapsed moves, Readable s.epoch skew t)
    (used : ∀ move ∈ moves, ∀ k, move.key? = some k → keys k)
    (lock : ∀ move ∈ moves, ∀ k, move.lock? = some k → locks k) :
    (Session.observations instances s (moves.map (.call ·.call))).map (·.result)
      = r.results config moves := by
  induction moves generalizing s r with
  | nil => rfl
  | cons move rest ih =>
    -- The first move keeps the two alike; the hypotheses for the rest are about the system then.
    generalize run : Step.run instances s (.call move.call) = done
    obtain ⟨s', result⟩ := done
    rw [instants_cons] at readable
    obtain ⟨told, same, stands'⟩ := stands.step lasting (shared move List.mem_cons_self)
      (fun t ht => readable t (List.mem_append_left _ ht)) (used move List.mem_cons_self)
      (lock move List.mem_cons_self) apart run
    have skews : s'.skews = s.skews := same.skews
    have epoch : s'.epoch = s.epoch := same.epoch
    have elapsed : s'.elapsed = move.after s.elapsed := same.now
    have further := ih (stands'.observe [] [])
      (by
        intro other ho
        show ∀ i, other.index? = some i → _ ∧ s'.skews.getD i 0 = skew
        rw [skews]
        exact shared other (List.mem_cons_of_mem _ ho))
      (by
        show ∀ t ∈ Move.instants s'.elapsed rest, Readable s'.epoch skew t
        rw [elapsed, epoch]
        exact fun t ht => readable t (List.mem_append_right _ ht))
      (fun other ho => used other (List.mem_cons_of_mem _ ho))
      (fun other ho => lock other (List.mem_cons_of_mem _ ho))
    have observed : Session.observations instances s ((move :: rest).map (.call ·.call))
        = (s'.observe result).2 :: Session.observations instances (s'.observe result).1
          (rest.map (.call ·.call)) := by
      rw [List.map_cons, Session.observations, run]
    rw [observed, List.map_cons, Register.results, ← told]
    exact congrArg (result :: ·) further

/-- **A sequential run comes to what its register says.** Let instances share one configuration, by
    which records outlast the window and free locks are acquired, and let their clocks show the same
    and be readable when attempts may be recorded. From a store without records or locks and without
    faults, any moves made one after the other, over any pairs and instances, come to the results of
    a register that is empty at first, as long as no record is kept under the key of a lock. -/
theorem results_eq {instances : Instances} {config : LimiterConfig} {skew : Int} {s : System}
    {moves : List Move} (lasting : Lasting config)
    (shared : ∀ move ∈ moves, ∀ i, move.index? = some i →
      (instances.limiter i).config = config ∧ s.skews.getD i 0 = skew)
    (readable : ∀ t ∈ Move.instants s.elapsed moves, Readable s.epoch skew t)
    (noFault : s.faults = [])
    (fresh : ∀ move ∈ moves, ∀ k, move.key? = some k ∨ move.lock? = some k → s.get? k = none)
    (apart : ∀ move ∈ moves, ∀ other ∈ moves, ∀ k, move.key? = some k → other.lock? ≠ some k) :
    (Session.observations instances s (moves.map (.call ·.call))).map (·.result)
      = Register.results config ⟨s.epoch + s.elapsed + skew, fun _ => []⟩ moves := by
  have stands : Stands config skew (fun k => ∃ move ∈ moves, move.key? = some k)
      (fun k => ∃ move ∈ moves, move.lock? = some k) s
      ⟨s.epoch + s.elapsed + skew, fun _ => []⟩ := by
    refine ⟨noFault, rfl, fun k n hn => absurd hn List.not_mem_nil,
      fun k n hn => absurd hn List.not_mem_nil, ?_, ?_⟩
    · intro k ⟨move, hm, hk⟩
      exact fresh move hm k (.inr hk)
    · intro k ⟨move, hm, hk⟩ t ht
      exact finds_nil _ (Store.get?_eq_none_later ht (fresh move hm k (.inl hk)))
  refine stands.results lasting ?_ shared readable (fun move hm k hk => ⟨move, hm, hk⟩)
    (fun move hm k hk => ⟨move, hm, hk⟩)
  intro k ⟨move, hm, hk⟩ ⟨other, ho, hl⟩
  exact apart move hm other ho k hk hl

/-- Attempts of two instances on one pair up to the cap, and looks before and at the end of their
    window. -/
def eightMoves : List Move :=
  [.record 0 "w" "s", .check 1 "r" "w" "s" none (some "h"), .record 0 "W" "S",
    .check 0 "r" "W" "s" none none, .wait 59999, .isLimited 1 "w" "s", .wait 1,
    .isLimited 0 "w" "s"]

/-- The subject is turned away after three attempts, and free again when the window has passed. -/
theorem results_eq_of_eightMoves :
    (Session.observations ⟨[{}, {}]⟩ {} (eightMoves.map (.call ·.call))).map (·.result)
      = [.flag false, .flag false, .flag false, .failed (.rateLimited "W"), .nothing, .flag true,
        .nothing, .flag false] := by
  have pair : ∀ move ∈ eightMoves, (∀ k, move.key? = some k → k = attemptsKey "w" "s")
      ∧ ∀ k, move.lock? = some k → k = lockKey "w" "s" := by
    intro move hm
    simp only [eightMoves, List.mem_cons, List.not_mem_nil, or_false] at hm
    rcases hm with rfl | rfl | rfl | rfl | rfl | rfl | rfl | rfl <;>
    · refine ⟨fun k hk => ?_, fun k hk => ?_⟩ <;>
      · cases hk
        try rfl
  have shared : ∀ move ∈ eightMoves, ∀ i, move.index? = some i →
      ((⟨[{}, {}]⟩ : Instances).limiter i).config = {} ∧ ({} : System).skews.getD i 0 = 0 := by
    intro move hm i hi
    simp only [eightMoves, List.mem_cons, List.not_mem_nil, or_false] at hm
    rcases hm with rfl | rfl | rfl | rfl | rfl | rfl | rfl | rfl <;>
    · cases hi
      try exact ⟨rfl, rfl⟩
  have readable : ∀ t ∈ Move.instants 0 eightMoves, Readable 1700000000000 0 t := by
    intro t ht
    simp only [eightMoves, Move.instants, List.mem_cons, List.not_mem_nil, or_false] at ht
    rcases ht with rfl | rfl | rfl | rfl <;>
    exact ⟨by decide +kernel, _, rfl⟩
  have lasting : Lasting {} := ⟨by decide, by decide, by decide⟩
  refine (@results_eq ⟨[{}, {}]⟩ {} 0 {} eightMoves lasting shared readable
    rfl (fun _ _ _ _ => rfl) ?_).trans rfl
  intro move hm other ho k hk hl
  have same := (pair move hm).1 k hk
  rw [(pair other ho).2 k hl] at same
  exact attemptsKey_ne_lockKey "w" "s" same.symm

end Register

end Turnstile

import Turnstile.Proofs.Limiter.Agreement
import Turnstile.Proofs.Limiter.Outcomes
import Turnstile.Proofs.Limiter.Pruning

set_option autoImplicit false

/-! # Corrupt records

Whatever is stored under the key of a record, a call that records an attempt either finds the cap
reached and leaves the text as it is, or counts the attempt as allowed and replaces the text by a
record that ends in the present instant, with two exceptions (`corrupt_record_replaced`). A text may be
`Spoilt`: its containers are nested too deep, or its list holds an integer beyond the range of
binary64 numbers. Neither failure is among those that the section takes for an empty record, so the
call fails open and leaves the text in place, and the next call finds it again (`spoilt_left`). And
the clock may show an integer with too many digits to be written. All other timestamps that are
kept can be written, as they were read (`Window.short_of_later`). -/

namespace Turnstile

/-! ## Timestamps that were read -/

namespace Window

/-- What is listed in a value holds only doubles of the value. -/
theorem doublesAre_attempts {P : Binary64 → Prop} {value : Json} (fine : value.DoublesAre P) :
    ∀ item ∈ attempts value, item.DoublesAre P := by
  unfold attempts
  split
  · next items listed =>
    obtain ⟨members, rfl, found⟩ : ∃ members, value = .object members
        ∧ members.lookup "attempts" = some (.list items) := by
      cases value with
      | object members => exact ⟨members, rfl, listed⟩
      | _ => cases listed
    cases fine with
    | object each =>
      obtain ⟨before, after, rfl, -⟩ := List.lookup_eq_some_iff.1 found
      have listFine := each ("attempts", .list items) (by simp)
      cases listFine with
      | list items => exact items
  · simp

/-- The timestamp of an item that was read is short. -/
theorem short_of_timestamp? {since n : Int} {item : Json} (fine : item.DoublesAre Json.Short)
    (counts : timestamp? since item = .ok (some n)) :
    digitCount n.natAbs ≤ Json.maxIntegerDigits := by
  unfold timestamp? at counts
  split at counts
  · split at counts
    · next inRange =>
      split at counts
      · cases counts
        exact Json.digitCount_le_of_inRange inRange
      · cases counts
    · cases counts
  · split at counts
    · cases fine with
      | double short => exact short n (Except.ok.inj counts)
    · cases counts
  · cases counts

/-- **Timestamps that were read can be written.** -/
theorem short_of_later {since : Int} {items : List Json} {kept : List Int}
    (fine : ∀ item ∈ items, item.DoublesAre Json.Short) (h : later since items = .ok kept) :
    ∀ n ∈ kept, digitCount n.natAbs ≤ Json.maxIntegerDigits := by
  intro n hn
  obtain ⟨item, hi, counts⟩ := (mem_later_iff h).1 hn
  exact short_of_timestamp? (fine item hi) counts

/-- An item is refused where it is an integer beyond the range of binary64 numbers. -/
theorem exists_timestamp?_iff {since : Int} {item : Json} :
    (∃ ts, timestamp? since item = .ok ts) ↔ ∀ n, .int n = item → inBinary64Range n := by
  unfold timestamp?
  split
  · next n =>
    by_cases inRange : inBinary64Range n = true
    · simp [inRange]
    · simp [inRange]
  · simp
  · next other _ => simpa using fun n same => absurd same.symm (other n)

/-- So a list is refused where it holds such an item. -/
theorem exists_later_iff {since : Int} {items : List Json} :
    (∃ kept, later since items = .ok kept) ↔ ∀ n, .int n ∈ items → inBinary64Range n := by
  induction items with
  | nil => simp [later]
  | cons item rest ih =>
    have both : (∃ kept, later since (item :: rest) = .ok kept)
        ↔ (∃ ts, timestamp? since item = .ok ts) ∧ ∃ more, later since rest = .ok more := by
      simp only [later_cons_iff]
      constructor
      · rintro ⟨_, ts, more, counts, others, -⟩
        exact ⟨⟨ts, counts⟩, more, others⟩
      · rintro ⟨⟨ts, counts⟩, more, others⟩
        exact ⟨_, ts, more, counts, others, rfl⟩
    simp only [both, exists_timestamp?_iff, ih, List.mem_cons, or_imp, forall_and]

end Window

/-! ## Spoilt texts -/

/-- A text that the section neither reads nor takes for an empty record: its containers are nested
    too deep, or its list holds an integer beyond the range of binary64 numbers. -/
def Spoilt (text : String) : Prop :=
  Json.read text = .error .tooDeep
    ∨ ∃ value n, Json.read text = .ok value ∧ .int n ∈ Window.attempts value
      ∧ inBinary64Range n = false

/-- The timestamps that the section keeps of what it finds under the key of its record. -/
def Limiter.keeps (l : Limiter) (now : Int) (found : Option Entry) : Except Failure (List Int) :=
  (Site.stored (.ok (found.elim .null fun e => .text e.value))).bind (l.recent · now)

namespace Site

variable {p : Site}

/-- A text that is not read counts as empty, unless it is nested too deep. -/
theorem stored_text (text : String) :
    stored (.ok (.text text)) = match Json.read text with
      | .ok value => .ok value
      | .error .tooDeep => .error (.unreadable .tooDeep)
      | .error _ => .ok .null := by
  simp only [stored, Except.bind, Cache.valueOf]
  cases Json.read text with
  | ok value => rfl
  | error reason => cases reason <;> rfl

/-- **The window of what is found is told, unless that is spoilt.** -/
theorem exists_keeps_iff {l : Limiter} {now : Int} {found : Option Entry} :
    (∃ kept, l.keeps now found = .ok kept) ↔ ∀ e, found = some e → ¬Spoilt e.value := by
  have empty : l.recent .null now = .ok [] := rfl
  cases found with
  | none => simp [Limiter.keeps, stored, Cache.valueOf_null, Except.bind, empty]
  | some e =>
    have told : (∀ e', some e = some e' → ¬Spoilt e'.value) ↔ ¬Spoilt e.value := by simp
    rw [told, Limiter.keeps, Option.elim_some, stored_text, Spoilt]
    cases read : Json.read e.value with
    | ok value =>
      refine Iff.trans Window.exists_later_iff ?_
      simp
    | error reason => cases reason <;> simp [Except.bind, empty]

/-- What is kept of it can be written. -/
theorem short_of_keeps {l : Limiter} {now : Int} {found : Option Entry} {kept : List Int}
    (h : l.keeps now found = .ok kept) :
    ∀ n ∈ kept, digitCount n.natAbs ≤ Json.maxIntegerDigits := by
  cases found with
  | none =>
    obtain rfl : [] = kept := Except.ok.inj h
    simp
  | some e =>
    rw [Limiter.keeps, Option.elim_some, stored_text] at h
    cases read : Json.read e.value with
    | ok value =>
      rw [read] at h
      exact Window.short_of_later (Window.doublesAre_attempts (Json.short_of_read read)) h
    | error reason =>
      rw [read] at h
      cases reason with
      | tooDeep => cases h
      | _ =>
        obtain rfl : [] = kept := Except.ok.inj h
        simp

/-- So only the present instant may keep a record from being written. -/
theorem integersFit_of_keeps {l : Limiter} {now : Int} {found : Option Entry} {kept : List Int}
    (h : l.keeps now found = .ok kept) : (Window.record (kept ++ [now])).integersFit = true
      ↔ digitCount now.natAbs ≤ Json.maxIntegerDigits := by
  rw [Json.integersFit_record, List.forall_mem_append, List.forall_mem_singleton]
  exact and_iff_right (short_of_keeps h)

/-- The verdict on a record whose window is told. -/
theorem verdict_of_keeps {v : World} {acquired : Binary64} {now : Int} {kept : List Int}
    (monotonic : v.monotonic = .ok acquired) (positive : 1 ≤ p.ttl)
    (h : p.limiter.keeps now (v.store.get? v.now p.key) = .ok kept) :
    p.verdict acquired now (v.reply p.key)
      = if p.limiter.capReached kept then (.ok true, none)
        else if digitCount now.natAbs ≤ Json.maxIntegerDigits then (.ok false, some (kept ++ [now]))
        else (.error .integerTooLong, none) := by
  have fits := integersFit_of_keeps h
  rw [Limiter.keeps, ← World.reply_eq] at h
  simp only [verdict, h, World.not_reaches monotonic positive, fits, Bool.false_eq_true, if_false]

/-- The verdict on a spoilt record. -/
theorem verdict_of_spoilt {v : World} (acquired : Binary64) {now : Int} {f : Failure}
    (h : p.limiter.keeps now (v.store.get? v.now p.key) = .error f) :
    p.verdict acquired now (v.reply p.key) = (.error f, none) := by
  rw [Limiter.keeps, ← World.reply_eq] at h
  simp only [verdict, h]

/-- Timestamps that were written are found at once. -/
theorem get?_written (keep : 1 ≤ p.keep) {now : Int} {s : Store} {timestamps : List Int} :
    (p.written now s (some timestamps)).get? now p.key
      = some ⟨(Window.record timestamps).write .stored, some (now + p.keep * 1000)⟩ := by
  have live : Entry.isLive now
      ⟨(Window.record timestamps).write .stored, some (now + p.keep * 1000)⟩ = true := by
    simp only [Entry.isLive, Option.all_some, decide_eq_true_eq]
    omega
  rw [p.get?_written_self keep, Option.filter_some, if_pos live]

/-- A failure makes a call say no, if it makes it say anything. -/
theorem eq_false_of_settle {f : Failure} {limited : Bool} (h : settle (.error f) = .ok limited) :
    limited = false := by
  simp only [settle] at h
  split at h
  · cases h
  · exact (Except.ok.inj h).symm

/-! ## What is counted -/

/-- Whether a call that records an attempt alone has counted it as allowed, by where it is: it does
    so when it has written its timestamps. -/
def CountedAt (timestamps : Option (List Int)) (counted : Prop) : Stage → Prop
  | .inside _ .written => timestamps.isSome ∧ ¬counted
  | .inside _ (.closing _) | .finished _ => counted ↔ timestamps.isSome
  | _ => ¬counted

/-- An attempt was counted as allowed. -/
def Allowed (v : World) : Prop := ∃ e ∈ v.history, e.outcome? = some .allowed

theorem allowed_add {v : World} {e : Event} (other : e.outcome? ≠ some .allowed) :
    Allowed (v.add e) ↔ Allowed v := by
  simp [Allowed, or_and_right, exists_or, other]

/-- A step of a record call that runs alone. -/
theorem CountedAt.step {w v : World} {acquired : Binary64} {now : Int} {stage stage' : Stage}
    {e : Event} (only : p.looks = false ∧ p.drops = false) (keep : 0 < p.keep)
    (apart : p.key ≠ p.lock) (monotonic : w.monotonic = .ok acquired)
    (clock : w.read p.limiter.clock = .ok now) (record : p.RecordFrom w acquired now v stage)
    (counted : CountedAt (p.verdict acquired now (w.reply p.key)).2 (Allowed v) stage)
    (admits : v.Admits e) (perform : e.action = .perform) (step : p.Step stage e stage') :
    CountedAt (p.verdict acquired now (w.reply p.key)).2 (Allowed (v.add e)) stage' := by
  have same := record.1
  have at_ := record.2
  cases step with
  | log =>
    rw [allowed_add (by simp [Event.outcome?])]
    exact counted
  | count other =>
    rw [allowed_add (by simpa [Event.outcome?] using other)]
    exact counted
  | look may =>
    rw [only.1] at may
    cases may
  | @drop stage may =>
    rw [only.2] at may
    cases may
  | pause => cases at_.1
  | @draw stage may isOpen =>
    rw [allowed_add (by simp [Event.outcome?])]
    cases stage with
    | idle => exact counted
    | weighed limited => exact at_.elim
    | _ => cases isOpen
  | @contend token again time task action reply =>
    rw [allowed_add (by simp [Event.outcome?])]
    cases reply with
    | ok reply =>
      simp only [tried]
      split <;> exact counted
    | error f =>
      simp only [tried]
      split <;> exact counted
  | @handle hold time task action reading =>
    rw [allowed_add (by simp [Event.outcome?])]
    cases reading with
    | ok reading => exact counted
    | error f => exact counted
  | @time hold a time task action reading =>
    have told : reading = .ok now := by
      rw [← clock, ← same.read]
      exact admits.answer
    rw [allowed_add (by simp [Event.outcome?]), told]
    exact counted
  | @judge hold a n time task action reply =>
    obtain ⟨⟨rfl, rfl⟩, -⟩ := at_
    cases perform
    have told : reply = w.reply p.key :=
      Eq.trans admits.answer (RecordFrom.content apart record rfl).symm
    rw [allowed_add (by simp [Event.outcome?]), told]
    rcases judge_cases a n (w.reply p.key) with ⟨outcome, judged, verdict⟩ | ⟨recent, judged, -⟩
    · rw [judged, verdict]
      simpa [CountedAt] using counted
    · rw [judged]
      exact counted
  | @prepare hold a n time recent task action reading =>
    obtain ⟨⟨rfl, rfl, judged⟩, -⟩ := at_
    have told : reading = .ok a := by
      rw [← monotonic, ← same.monotonic]
      exact admits.answer
    rw [allowed_add (by simp [Event.outcome?]), told]
    rcases judge_cases a n (w.reply p.key) with ⟨outcome, closed, -⟩ | ⟨recent', judged', cases_⟩
    · rw [judged] at closed
      cases closed
    · rw [judged] at judged'
      cases judged'
      rcases cases_ with ⟨outcome, prepared, verdict⟩ | ⟨prepared, verdict⟩
      · rw [prepared, verdict]
        simpa [CountedAt] using counted
      · rw [prepared]
        exact counted
  | @write hold timestamps time task action reply =>
    obtain ⟨verdict, -⟩ := at_
    cases perform
    have told : reply = .ok (.bool true) := by
      have answered : reply = (Command.perform v.now v.store
        (.set p.key ((Window.record timestamps).write .stored) p.keep)).2 := admits.answer
      rw [answered, Command.perform, if_neg (Int.not_le.2 keep)]
    rw [allowed_add (by simp [Event.outcome?]), told, show p.verdict acquired now _ = _ from verdict]
    exact ⟨rfl, counted⟩
  | @allow hold time task action answer =>
    have added : Allowed (v.add ⟨time, task, .countOutcome .allowed, action, answer⟩) :=
      ⟨_, List.mem_append_right _ (List.mem_singleton.2 rfl), rfl⟩
    exact iff_of_true added counted.1
  | release =>
    rw [allowed_add (by simp [Event.outcome?])]
    exact counted
  | _ => exact at_.elim

/-- A call that records an attempt alone releases its lock without a failure. -/
theorem unbroken_doings (task : Nat) {s : System} (noFault : s.faults = []) (records : p.records) :
    ∀ e ∈ (p.limiter.recordFailure p.world p.subject).run.doings task s, e.breaks = false := by
  have obeys := @recordFailure_obeys p task .idle records trivial
  have tame : ∀ f ∈ s.faults, f.action = .perform := by simp [noFault]
  intro e he
  have perform := @Proc.Obeys.actions_doings _ _ _ _ _ (· = .perform) rfl _ _ obeys _ tame e he
  obtain ⟨v, admits⟩ := Proc.exists_admits_doings _ _ _ e he
  obtain ⟨time, task, effect, action, answer⟩ := e
  cases perform
  unfold Event.breaks
  split
  · next key token _ f same =>
    cases same
    have failed : (Command.perform v.now v.store (.deleteIfEqual key token)).2 = .error f :=
      admits.answer.symm
    rw [Command.eq_invalidExpiry (Prod.ext rfl failed)]
    rfl
  · rfl

/-- A call that records an attempt alone comes to an answer, and counts one outcome, which tells the
    answer. -/
theorem recordFailure_outcome (task : Nat) {s : System} (noFault : s.faults = [])
    (records : p.records) :
    ∃ limited o, ((p.limiter.recordFailure p.world p.subject).run.run task s).2 = .ok limited
      ∧ ((p.limiter.recordFailure p.world p.subject).run.doings task s).filterMap Event.outcome?
        = [o]
      ∧ o ≠ .cleared ∧ (limited = true ↔ o = .rateLimited) := by
  have obeys := @recordFailure_obeys p task .idle records trivial
  have does := Proc.does_doings task (p.limiter.recordFailure p.world p.subject).run s
  have spares : ∀ e ∈ (p.limiter.recordFailure p.world p.subject).run.doings task s, e.Spares :=
    obeys.spares_doings (by simp [noFault])
  obtain ⟨limited, returns⟩ := Limiter.recordFailure_returns does spares
  rw [returns] at does
  obtain ⟨o, counted, other, limits, -⟩ :=
    (Limiter.recordFailure_does does).1 (unbroken_doings task noFault records)
  exact ⟨limited, o, returns, counted, other, limits⟩

section

variable (task : Nat) {s : System} (noFault : s.faults = []) (records : p.records)
  (only : p.looks = false ∧ p.drops = false) (free : s.get? p.lock = none) (positive : 0 < p.ttl)
  (keep : 0 < p.keep) (retries : 0 ≤ p.limiter.config.lock.retries) {acquired : Binary64}
  {now : Int} (monotonic : (World.of s []).monotonic = .ok acquired)
  (clock : (World.of s []).read p.limiter.clock = .ok now)

include noFault records only free positive keep retries monotonic clock

/-- A call that records an attempt alone counts it as allowed where its verdict is to write. -/
theorem allowed_doings :
    (∃ e ∈ (p.limiter.recordFailure p.world p.subject).run.doings task s,
        e.outcome? = some .allowed)
      ↔ (p.verdict acquired now ((World.of s []).reply p.key)).2.isSome := by
  have apart : p.key ≠ p.lock := attemptsKey_ne_lockKey p.world p.subject
  let inv (v : World) (stage : Stage) : Prop := p.RecordFrom (.of s []) acquired now v stage
    ∧ CountedAt (p.verdict acquired now ((World.of s []).reply p.key)).2 (Allowed v) stage
  have event : ∀ v stage e stage', inv v stage → v.Admits e → e.action = .perform →
      p.Step stage e stage' → inv (v.add e) stage' := by
    rintro v stage e stage' ⟨record, counted⟩ admits perform step
    exact ⟨record.step only free positive apart monotonic clock admits perform step,
      CountedAt.step only keep apart monotonic clock record counted admits perform step⟩
  have pass : ∀ v stage e stage' t, inv v stage → p.Step stage e stage' → e.effect.idles →
      v.now ≤ t → inv (v.atTime t) stage := by
    rintro v stage e stage' t ⟨record, -⟩ step idles -
    cases step with
    | wait => exact record.2.elim
    | pause => cases record.2.1
    | _ => cases idles
  have begins : inv (.of s []) .idle :=
    ⟨⟨⟨rfl, rfl, rfl⟩, rfl⟩, by simp [CountedAt, Allowed, World.of]⟩
  obtain ⟨stage, ⟨record, counted⟩, ⟨ends, tried⟩, -⟩ :=
    Proc.doings_invariant event pass (@recordFailure_obeys p task .idle records trivial) noFault
      begins
  generalize ((p.limiter.recordFailure p.world p.subject).run.run task s).2 = told at ends
  cases ends with
  | finished outcome => exact counted
  | failed f => exact record.2.elim
  | trying token again =>
    obtain ⟨-, rfl, -⟩ := record
    exact absurd rfl (tried retries token)

/-- **What a record call counts alone.** It counts one outcome: that the cap was reached where it
    says so, and that the attempt is allowed where its verdict is to write. -/
theorem recordFailure_counts (cap : 1 ≤ p.limiter.config.cap) {s' : System}
    {result : Except Failure Bool}
    (run : (p.limiter.recordFailure p.world p.subject).run.run task s = (s', result)) :
    ∃ limited o, result = .ok limited
      ∧ settle (p.verdict acquired now ((World.of s []).reply p.key)).1 = .ok limited
      ∧ (∀ other : AttemptOutcome, s'.metrics.outcomes.count other.name
        = s.metrics.outcomes.count other.name + if o = other then 1 else 0)
      ∧ o ≠ .cleared ∧ (limited = true ↔ o = .rateLimited)
      ∧ (o = .allowed ↔ (p.verdict acquired now ((World.of s []).reply p.key)).2.isSome) := by
  have apart : p.key ≠ p.lock := attemptsKey_ne_lockKey p.world p.subject
  obtain ⟨-, -, settled, -⟩ := recordFailure_run noFault records only free positive retries apart
    monotonic clock run
  obtain ⟨limited, -, returns⟩ := p.exists_glance_eq cap acquired now
    (World.ordinary_reply (.of s []) p.key)
  have result_ : result = .ok limited := settled.trans returns
  have allowed := allowed_doings task noFault records only free positive keep retries monotonic
    clock
  have counters := Proc.outcomes_run task (p.limiter.recordFailure p.world p.subject).run (s := s)
    (@recordFailure_obeys p task .idle records trivial).own_doings
  obtain ⟨limited', o, told, counted, other, limits⟩ :=
    p.recordFailure_outcome task noFault records
  rw [run] at told counters
  cases result_.symm.trans told
  refine ⟨limited, o, result_, returns, fun other => ?_, other, limits, ?_⟩
  · rw [counters, counted, List.count_singleton]
    simp
  · rw [← allowed, ← List.mem_filterMap, counted, List.mem_singleton, eq_comm]

end

end Site

/-- **A spoilt record is left.** A call that records an attempt of its pair fails open, and what is
    stored stays, so that the next call finds it again. -/
theorem spoilt_left (l : Limiter) (world subject : String) (task : Nat) {s s' : System}
    (noFault : s.faults = []) (free : s.get? (lockKey world subject) = none)
    (cap : 1 ≤ l.config.cap) (keep : 1 ≤ l.config.recordSeconds) (ttl : 1 ≤ l.config.lock.ttl)
    (retries : 0 ≤ l.config.lock.retries) (readable : MonotonicReadable s.elapsed) {now : Int}
    (clock : s.read l.clock = .ok now)
    {e : Entry} (found : s.get? (attemptsKey world subject) = some e) (spoilt : Spoilt e.value)
    {result : Except Failure Bool}
    (run : (l.recordFailure world subject).run.run task s = (s', result)) :
    result = .ok false
      ∧ (∀ other : AttemptOutcome, s'.metrics.outcomes.count other.name
        = s.metrics.outcomes.count other.name + if .failOpen = other then 1 else 0)
      ∧ ∀ t, s'.store.get? t (attemptsKey world subject)
        = s.store.get? t (attemptsKey world subject) := by
  let p : Site := ⟨l, world, subject, false, true, false⟩
  obtain ⟨acquired, monotonic⟩ := (World.of s []).exists_monotonic readable
  have apart : p.key ≠ p.lock := attemptsKey_ne_lockKey world subject
  have clock' : (World.of s []).read l.clock = .ok now := (World.read_of s [] _).trans clock
  obtain ⟨f, unkept⟩ : ∃ f, l.keeps now (s.get? p.key) = .error f := by
    cases kept : l.keeps now (s.get? p.key) with
    | error f => exact ⟨f, rfl⟩
    | ok kept' => exact absurd spoilt (Site.exists_keeps_iff.1 ⟨kept', kept⟩ e found)
  have verdict := Site.verdict_of_spoilt (p := p) (v := .of s []) acquired unkept
  obtain ⟨-, -, -, -, records⟩ := p.recordFailure_run noFault rfl ⟨rfl, rfl⟩ free ttl retries
    apart monotonic clock' run
  obtain ⟨limited, o, returned, settled, counters, other, limits, allows⟩ :=
    p.recordFailure_counts task noFault rfl ⟨rfl, rfl⟩ free ttl keep retries monotonic clock' cap run
  have record := records p.key apart
  rw [verdict] at settled allows record
  obtain rfl := Site.eq_false_of_settle settled
  cases o with
  | rateLimited => simp at limits
  | allowed => simp at allows
  | failOpen => exact ⟨returned, counters, record⟩
  | cleared => exact absurd rfl other

/-- **A corrupt record is replaced.** Whatever is stored under the key of a pair's record, and whatever
    the clocks show, a call that records an attempt of the pair ends with one outcome. Either the cap
    is reached, and what is stored stays; or the attempt is allowed, and in its place there is a
    record that lists integers, the last of which is the present instant; or the call fails open, and
    what is stored stays, but this only where that is spoilt or the present instant cannot be
    written. The lock is free, no fault waits, the cap allows an attempt, and the lock and the record
    are to be kept for some time. -/
theorem corrupt_record_replaced (l : Limiter) (world subject : String) (task : Nat) {s s' : System}
    (noFault : s.faults = []) (free : s.get? (lockKey world subject) = none)
    (cap : 1 ≤ l.config.cap) (keep : 1 ≤ l.config.recordSeconds) (ttl : 1 ≤ l.config.lock.ttl)
    (retries : 0 ≤ l.config.lock.retries) (readable : MonotonicReadable s.elapsed) {now : Int}
    (clock : s.read l.clock = .ok now)
    {result : Except Failure Bool}
    (run : (l.recordFailure world subject).run.run task s = (s', result)) :
    ∃ o : AttemptOutcome,
      (∀ other : AttemptOutcome, s'.metrics.outcomes.count other.name
        = s.metrics.outcomes.count other.name + if o = other then 1 else 0)
      ∧ match o with
        | .rateLimited => result = .ok true
          ∧ (∀ e, s.get? (attemptsKey world subject) = some e → ¬Spoilt e.value)
          ∧ ∀ t, s'.store.get? t (attemptsKey world subject)
            = s.store.get? t (attemptsKey world subject)
        | .allowed => result = .ok false
          ∧ (∀ e, s.get? (attemptsKey world subject) = some e → ¬Spoilt e.value)
          ∧ ∃ kept text, l.keeps now (s.get? (attemptsKey world subject)) = .ok kept
            ∧ s'.get? (attemptsKey world subject)
              = some ⟨text, some (s.elapsed + l.config.recordSeconds * 1000)⟩
            ∧ Json.read text = .ok (Window.record (kept ++ [now]))
        | .failOpen => result = .ok false
          ∧ ((∃ e, s.get? (attemptsKey world subject) = some e ∧ Spoilt e.value)
            ∨ Json.maxIntegerDigits < digitCount now.natAbs)
          ∧ ∀ t, s'.store.get? t (attemptsKey world subject)
            = s.store.get? t (attemptsKey world subject)
        | .cleared => False := by
  let p : Site := ⟨l, world, subject, false, true, false⟩
  obtain ⟨acquired, monotonic⟩ := (World.of s []).exists_monotonic readable
  have apart : p.key ≠ p.lock := attemptsKey_ne_lockKey world subject
  have clock' : (World.of s []).read l.clock = .ok now := (World.read_of s [] _).trans clock
  obtain ⟨same, -, -, -, records⟩ := p.recordFailure_run noFault rfl ⟨rfl, rfl⟩ free ttl retries
    apart monotonic clock' run
  obtain ⟨limited, o, returned, settled, counters, other, limits, allows⟩ :=
    p.recordFailure_counts task noFault rfl ⟨rfl, rfl⟩ free ttl keep retries monotonic clock' cap run
  have record := records p.key apart
  have unspoilt := @Site.exists_keeps_iff l now (s.get? p.key)
  cases kept? : l.keeps now (s.get? p.key) with
  | error f =>
    obtain ⟨e, found, spoilt⟩ : ∃ e, s.get? p.key = some e ∧ Spoilt e.value := by
      rw [kept?] at unspoilt
      simpa using unspoilt
    obtain ⟨told, counts, stays⟩ := spoilt_left l world subject task noFault free cap keep ttl
      retries readable clock found spoilt run
    exact ⟨.failOpen, counts, told, .inl ⟨e, found, spoilt⟩, stays⟩
  | ok kept =>
    have verdict := Site.verdict_of_keeps (p := p) (v := .of s []) monotonic ttl kept?
    have fine := unspoilt.1 ⟨kept, kept?⟩
    rw [verdict] at settled allows record
    by_cases full : l.capReached kept = true
    · rw [if_pos full] at settled allows record
      obtain rfl : true = limited := Except.ok.inj settled
      obtain rfl := limits.1 rfl
      exact ⟨.rateLimited, counters, returned, fine, record⟩
    rw [if_neg full] at settled allows record
    by_cases short : digitCount now.natAbs ≤ Json.maxIntegerDigits
    · rw [if_pos short] at settled allows record
      obtain rfl : false = limited := Except.ok.inj settled
      obtain rfl := allows.2 rfl
      have fits := (Site.integersFit_of_keeps kept?).2 short
      refine ⟨.allowed, counters, returned, fine, kept, _, kept?, ?_, Json.read_write_record fits⟩
      have now_ : s'.elapsed = s.elapsed := same.now
      rw [System.get?, now_]
      refine (record s.elapsed).trans ?_
      exact Site.get?_written (p := p) keep
    · rw [if_neg short] at settled allows record
      obtain rfl := Site.eq_false_of_settle settled
      cases o with
      | rateLimited => simp at limits
      | allowed => simp at allows
      | failOpen => exact ⟨.failOpen, counters, returned, .inr (Nat.lt_of_not_le short), record⟩
      | cleared => exact absurd rfl other

/-- A record that is no JSON text. -/
def brokenRecord : System where
  store := ⟨[(attemptsKey "w" "s", ⟨"\x7bnot json", none⟩)]⟩

/-- An attempt is allowed, and stands alone in a record that takes the place of the broken text. -/
theorem corrupt_record_replaced_of_brokenRecord :
    ∃ s' result, (strict.recordFailure "w" "s").run.run 0 brokenRecord = (s', result)
      ∧ result = .ok false ∧ s'.metrics.outcomes = [("allowed", 1)]
      ∧ ∃ e, s'.get? (attemptsKey "w" "s") = some e
        ∧ Json.read e.value = .ok (Window.record [1700000000000]) := by
  have free : brokenRecord.get? (lockKey "w" "s") = none := by decide +kernel
  have clock : brokenRecord.read strict.clock = .ok 1700000000000 := rfl
  have empty : (strict.keeps 1700000000000 (brokenRecord.get? (attemptsKey "w" "s"))).toOption
      = some [] := by decide +kernel
  have counters :
      ((strict.recordFailure "w" "s").run.run 0 brokenRecord).1.metrics.outcomes
        = [("allowed", 1)] := by decide +kernel
  have readable : MonotonicReadable brokenRecord.elapsed := ⟨_, rfl⟩
  generalize run : (strict.recordFailure "w" "s").run.run 0 brokenRecord = r at counters
  obtain ⟨s', result⟩ := r
  obtain ⟨o, counted, ends⟩ := corrupt_record_replaced strict "w" "s" 0 rfl free (by decide)
    (by decide) (by decide) (by decide) readable clock run
  have once := counted .allowed
  rw [counters] at once
  cases o with
  | allowed =>
    obtain ⟨returned, -, kept, text, tells, found, reads⟩ := ends
    rw [tells] at empty
    cases empty
    exact ⟨s', result, rfl, returned, counters, _, found, reads⟩
  | _ => cases once

/-- An integer of 401 digits. -/
def huge : Int := -((10 ^ 400 : Nat) : Int)

/-- A record that lists it. -/
def hugeRecord : System where
  store := ⟨[(attemptsKey "w" "s", ⟨(Window.record [huge]).write .stored, none⟩)]⟩

/-- An integer beyond the range of binary64 numbers in a record that can be read. -/
theorem spoilt_hugeRecord : Spoilt ((Window.record [huge]).write .stored) := by
  have powers : ∀ k < Json.maxIntegerDigits, 10 ^ k < 10 ^ Json.maxIntegerDigits :=
    fun k => Nat.pow_lt_pow_right (by decide)
  have small : huge.natAbs < 10 ^ Json.maxIntegerDigits := by
    rw [huge, Int.natAbs_neg, Int.natAbs_natCast]
    exact powers 400 (by decide)
  have short : digitCount huge.natAbs ≤ Json.maxIntegerDigits :=
    (Nat.length_toDigits_le_iff (by decide) (by decide)).2 small
  have fits : (Window.record [huge]).integersFit := by
    rw [Json.integersFit_record, List.forall_mem_singleton]
    exact short
  exact .inr ⟨_, huge, Json.read_write_record fits, List.mem_singleton.2 rfl,
    by decide +kernel⟩

/-- A call that records an attempt, with no fault and the lock free, fails open and leaves the record
    as it was. -/
theorem record_left :
    hugeRecord.faults = [] ∧ hugeRecord.get? (lockKey "w" "s") = none
      ∧ ∃ s' result, (strict.recordFailure "w" "s").run.run 0 hugeRecord = (s', result)
        ∧ result = .ok false ∧ s'.metrics.outcomes.count "fail_open" = 1
        ∧ ∀ t, s'.store.get? t (attemptsKey "w" "s")
          = some ⟨(Window.record [huge]).write .stored, none⟩ := by
  have free : hugeRecord.get? (lockKey "w" "s") = none := by decide +kernel
  have found : ∀ t, hugeRecord.store.get? t (attemptsKey "w" "s")
      = some ⟨(Window.record [huge]).write .stored, none⟩ := by
    intro t
    simp [hugeRecord, Store.get?, Entry.isLive]
  have clock : hugeRecord.read strict.clock = .ok 1700000000000 := rfl
  have readable : MonotonicReadable hugeRecord.elapsed := ⟨_, rfl⟩
  generalize run : (strict.recordFailure "w" "s").run.run 0 hugeRecord = r
  obtain ⟨s', result⟩ := r
  obtain ⟨told, counts, stays⟩ := spoilt_left strict "w" "s" 0 rfl free (by decide) (by decide)
    (by decide) (by decide) readable clock (found 0) spoilt_hugeRecord run
  exact ⟨rfl, free, s', result, rfl, told, counts .failOpen, fun t => (stays t).trans (found t)⟩

end Turnstile

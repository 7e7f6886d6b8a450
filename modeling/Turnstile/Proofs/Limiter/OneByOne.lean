import Mathlib.Data.List.Induction
import Mathlib.Data.List.Nodup
import Turnstile.Proofs.Limiter.Verdict
import Turnstile.Proofs.Run.Trace

set_option autoImplicit false

/-! # One call at a time

The sequential machine that calls next to each other are compared with. Each call that touched a
record takes one turn, at the instant at which it last did so: a look does all that it does, a
record call its locked section (`Call.oneByOne`). The order of the turns is that of the last touches
in the trace (`lastTouches`). -/

namespace Turnstile

/-! ## The order of turns -/

/-- The command reads or writes a record. -/
def Access.touches (a : Access) : Bool :=
  match a.command with
  | .get _ | .set .. => true
  | _ => false

/-- The tasks that touched a record, in the order of their last touches, with the instants of
    these. -/
def lastTouches (accesses : List Access) : List (Nat × Int) :=
  accesses.foldl
    (fun order a =>
      if a.touches then order.filter (·.1 ≠ a.task) ++ [(a.task, a.time)] else order) []

theorem lastTouches_append (accesses : List Access) (a : Access) :
    lastTouches (accesses ++ [a]) = if a.touches
      then (lastTouches accesses).filter (·.1 ≠ a.task) ++ [(a.task, a.time)]
      else lastTouches accesses := by
  rw [lastTouches, List.foldl_append]
  rfl

/-- The last touches of a history. -/
def touchesOf (h : List Event) : List (Nat × Int) := lastTouches (h.filterMap Event.access?)

theorem touchesOf_quiet (h : List Event) {e : Event} (quiet : e.touches = false) :
    touchesOf (h ++ [e]) = touchesOf h := by
  obtain ⟨time, task, effect, action, answer⟩ := e
  rw [touchesOf, List.filterMap_append]
  cases effect with
  | command c =>
    show lastTouches (_ ++ [⟨time, task, c, answer⟩]) = _
    rw [lastTouches_append, if_neg]
    · rfl
    · cases c with
      | get | set => cases quiet
      | _ => exact fun touches => by cases touches
  | _ => exact congrArg lastTouches (List.append_nil _)

theorem touchesOf_touches (h : List Event) {e : Event} (touches : e.touches) :
    touchesOf (h ++ [e]) = (touchesOf h).filter (·.1 ≠ e.task) ++ [(e.task, e.time)] := by
  obtain ⟨time, task, effect, action, answer⟩ := e
  rw [touchesOf, List.filterMap_append]
  cases effect with
  | command c =>
    show lastTouches (_ ++ [⟨time, task, c, answer⟩]) = _
    rw [lastTouches_append, if_pos]
    · rfl
    · cases c <;> first | rfl | cases touches
  | _ => cases touches

/-- No task has two turns. -/
theorem nodup_touchesOf (h : List Event) : ((touchesOf h).map Prod.fst).Nodup := by
  induction h using List.reverseRecOn with
  | nil => exact List.nodup_nil
  | append_singleton h e ih =>
    cases touches : e.touches with
    | false =>
      rw [touchesOf_quiet h touches]
      exact ih
    | true =>
      rw [touchesOf_touches h touches, List.map_append, List.nodup_append]
      refine ⟨ih.sublist (List.filter_sublist.map _), List.nodup_singleton _, ?_⟩
      intro a ha b hb
      obtain ⟨turn, hturn, rfl⟩ := List.mem_map.1 ha
      rw [show b = e.task by simpa using hb]
      exact of_decide_eq_true (List.mem_filter.1 hturn).2

/-! ## The machine -/

namespace Call

/-- What a call does in its turn. -/
def atomic (instances : Instances) : Call → Routine CallResult
  | .record i world subject => .flag <$> (instances.limiter i).lockedSection world subject
  | call => call.routine instances

/-- Let a task take its turn, and note its result. -/
def turn (instances : Instances) (calls : List Delayed)
    (m : System × List (Nat × Except Failure CallResult)) (taken : Nat × Int) :
    System × List (Nat × Except Failure CallResult) :=
  match calls[taken.1]? with
  | some call =>
    let (s, result) := ((call.2.atomic instances).run).run taken.1 { m.1 with elapsed := taken.2 }
    (s, m.2 ++ [(taken.1, result)])
  | none => m

/-- Let tasks take their turns one after the other; the results are noted in the order of the turns.
    -/
def oneByOne (instances : Instances) (calls : List Delayed) (s : System)
    (turns : List (Nat × Int)) : System × List (Nat × Except Failure CallResult) :=
  turns.foldl (turn instances calls) (s, [])

theorem oneByOne_append (instances : Instances) (calls : List Delayed) (s : System)
    (turns : List (Nat × Int)) (taken : Nat × Int) :
    oneByOne instances calls s (turns ++ [taken])
      = turn instances calls (oneByOne instances calls s turns) taken := by
  rw [oneByOne, List.foldl_append]
  rfl

/-- Only tasks that take a turn have a result. -/
theorem mem_of_lookup_oneByOne {instances : Instances} {calls : List Delayed} {s : System}
    {turns : List (Nat × Int)} {i : Nat}
    (h : (oneByOne instances calls s turns).2.lookup i ≠ none) : ∃ t, (i, t) ∈ turns := by
  induction turns using List.reverseRecOn with
  | nil => exact absurd rfl h
  | append_singleton turns taken ih =>
    by_cases own : taken.1 = i
    · exact ⟨taken.2, by simp [← own]⟩
    · have same : (oneByOne instances calls s (turns ++ [taken])).2.lookup i
          = (oneByOne instances calls s turns).2.lookup i := by
        have apart : (i == taken.1) = false := by simpa using Ne.symm own
        rw [oneByOne_append, turn]
        split
        · rw [List.lookup_append]
          simp [List.lookup_cons, apart]
        · rfl
      rw [same] at h
      obtain ⟨t, ht⟩ := ih h
      exact ⟨t, List.mem_append_left _ ht⟩

end Call

/-! ## Turns -/

/-- The machine's system shows the skews and the records of a world, and no fault waits in it. -/
structure Aligned (sites : Nat → Site) (v : World) (m : System) : Prop where
  epoch : m.epoch = v.epoch
  skews : m.skews = v.skews
  none : m.faults = []
  store : ∀ i t, m.store.get? t (sites i).key = v.store.get? t (sites i).key

namespace Aligned

variable {sites : Nat → Site} {v : World} {m : System} (aligned : Aligned sites v m)

include aligned

/-- At the world's instant the machine's clocks show what the world's do. -/
theorem sameTime : (World.of { m with elapsed := v.now } []).SameTime v :=
  ⟨rfl, aligned.epoch, aligned.skews⟩

theorem reply (i : Nat) :
    (World.of { m with elapsed := v.now } []).reply (sites i).key = v.reply (sites i).key := by
  rw [World.reply_eq, World.reply_eq]
  show Except.ok ((m.store.get? v.now _).elim _ _) = _
  rw [aligned.store]

end Aligned

namespace Call

variable {instances : Instances} {calls : List Delayed} {sites : Nat → Site} {v : World}
  {m : System × List (Nat × Except Failure CallResult)} {i : Nat} {call : Delayed} {p : Site}

/-- A look in its turn finds what it finds at a glance, and the records stay as they are. -/
theorem turn_look (aligned : Aligned sites v m.1) (hi : calls[i]? = some call)
    (counting : call.2.Counting) (hp : call.2.site? instances = some p) (site : sites i = p)
    (looks : p.looks) :
    Aligned sites v (turn instances calls m (i, v.now)).1
      ∧ ∃ told, (turn instances calls m (i, v.now)).2 = m.2 ++ [(i, told.map .flag)]
        ∧ Site.LookEnds told (p.glance (v.reply p.key) (v.read p.limiter.clock)) := by
  obtain ⟨delay, call⟩ := call
  cases call with
  | isLimited j world subject =>
    cases hp
    generalize hr : ((instances.limiter j).isLimited world subject).run.run i
      { m.1 with elapsed := v.now } = done
    obtain ⟨s', told⟩ := done
    obtain ⟨same, none, store, ends⟩ := Site.isLimited_run
      (p := ⟨instances.limiter j, world, subject, true, false, false⟩)
      (s := { m.1 with elapsed := v.now }) aligned.none rfl ⟨rfl, rfl⟩ hr
    rw [← site, aligned.reply, aligned.sameTime.read, site] at ends
    have taken : turn instances calls m (i, v.now) = (s', m.2 ++ [(i, told.map .flag)]) := by
      simp only [turn, hi, atomic, routine, Routine.run_map, hr]
    rw [taken]
    refine ⟨⟨same.epoch.trans aligned.epoch, same.skews.trans aligned.skews, none, ?_⟩,
      told, rfl, ends⟩
    intro k t
    rw [store]
    exact aligned.store k t
  | record j world subject =>
    cases hp
    cases looks
  | _ => exact counting.elim

/-- A record call in its turn comes to its verdict. -/
theorem turn_record (aligned : Aligned sites v m.1) (hi : calls[i]? = some call)
    (counting : call.2.Counting) (hp : call.2.site? instances = some p) (site : sites i = p)
    (records : p.records) {acquired : Binary64} {now : Int}
    (monotonic : v.monotonic = .ok acquired) (clock : v.read p.limiter.clock = .ok now) :
    Aligned sites
        { v with store := p.written v.now v.store (p.verdict acquired now (v.reply p.key)).2 }
        (turn instances calls m (i, v.now)).1
      ∧ (turn instances calls m (i, v.now)).2
          = m.2 ++ [(i, (Site.settle (p.verdict acquired now (v.reply p.key)).1).map .flag)] := by
  obtain ⟨delay, call⟩ := call
  cases call with
  | record j world subject =>
    cases hp
    generalize hr : ((instances.limiter j).lockedSection world subject).run.run i
      { m.1 with elapsed := v.now } = done
    obtain ⟨s', told⟩ := done
    rw [← aligned.sameTime.monotonic] at monotonic
    rw [← aligned.sameTime.read] at clock
    have content := aligned.reply i
    obtain ⟨same, none, verdict, store⟩ := Site.lockedSection_run
      (p := ⟨instances.limiter j, world, subject, false, true, false⟩)
      (s := { m.1 with elapsed := v.now }) aligned.none monotonic clock hr
    rw [site] at content
    rw [content] at store verdict
    have taken : turn instances calls m (i, v.now) = (s', m.2 ++ [(i, told.map .flag)]) := by
      simp only [turn, hi, atomic, Routine.run_map, hr]
    rw [taken, ← verdict]
    refine ⟨⟨same.epoch.trans aligned.epoch, same.skews.trans aligned.skews, none, ?_⟩, rfl⟩
    intro k t
    rw [store]
    exact Site.get?_written_congr _ (aligned.store k) _ _ t
  | isLimited j world subject =>
    cases hp
    cases records
  | _ => exact counting.elim

end Call

end Turnstile

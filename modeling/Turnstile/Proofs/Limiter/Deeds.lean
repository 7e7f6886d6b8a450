import Mathlib.Data.Finset.Card
import Mathlib.Order.Basic
import Turnstile.Proofs.Json.Record
import Turnstile.Proofs.Limiter.Stages

set_option autoImplicit false

/-! # Deeds

A deed is an attempt that was written to a record. `Capped` says of a list of deeds, newest first,
that each was done when few others were near; then few lie in any interval that is short enough
(`Capped.length_le`). `Fair` says that a list of timestamps tells of all the deeds that are near. -/

namespace Turnstile

/-! ## What an event tells -/

namespace Event

/-- The reading of a limiter's clock. -/
def reading? : Event → Option Int
  | ⟨_, _, .clock _, _, .ok now⟩ => some now
  | _ => none

/-- How far ahead of the instant the clock was that was read. -/
def offset? (e : Event) : Option Int := e.reading?.map (· - e.time)

/-- A lock is acquired. -/
def acquires (lock : String) : Event → Bool
  | ⟨_, _, .command (.setIfAbsent key _ _), _, .ok reply⟩ => key = lock && reply.truthy
  | _ => false

/-- A record is written. -/
def writes (key : String) (e : Event) : Bool :=
  match e.effect with
  | .command (.set k _ _) => k = key
  | _ => false

/-- An outcome is counted. -/
def counts (outcome : AttemptOutcome) (e : Event) : Bool :=
  match e.effect with
  | .countOutcome o => o = outcome
  | _ => false

end Event

/-! ## Deeds that are near -/

/-- An attempt that a task wrote to the record at `time`: it acquired its lock at `since`, and
    `stamp` is the timestamp that it wrote. -/
structure Deed where
  task : Nat
  since : Int
  stamp : Int
  time : Int
deriving DecidableEq

/-- The lock of a deed was acquired less than `span` before an instant, or later. -/
def Deed.near (span since : Int) (e : Deed) : Bool := since < e.since + span

/-- Of deeds, newest first, each was done with fewer than `cap` near it before. -/
def Capped (span cap : Int) : List Deed → Prop
  | [] => True
  | e :: older => ((older.filter (Deed.near span e.since)).length : Int) < cap
      ∧ Capped span cap older

/-- No interval as long as the span holds more deeds than the cap. -/
theorem Capped.length_le {span cap : Int} (hcap : 1 ≤ cap) {deeds : List Deed}
    (capped : Capped span cap deeds) (first : Int) :
    ((deeds.filter fun e => first ≤ e.since && e.since < first + span).length : Int) ≤ cap := by
  induction deeds with
  | nil => simpa using (by omega : (0 : Int) ≤ cap)
  | cons e older ih =>
    obtain ⟨few, rest⟩ := capped
    by_cases he : first ≤ e.since ∧ e.since < first + span
    · -- All that lie in the interval with the newest are near it.
      have sub : (older.filter fun o => first ≤ o.since && o.since < first + span).Sublist
          (older.filter (Deed.near span e.since)) := by
        refine List.monotone_filter_right older ?_
        intro o ho
        simp only [Bool.and_eq_true, decide_eq_true_eq] at ho
        simp only [Deed.near, decide_eq_true_eq]
        omega
      have := sub.length_le
      rw [List.filter_cons_of_pos (by simpa using he), List.length_cons]
      omega
    · rw [List.filter_cons_of_neg (by simpa using he)]
      exact ih rest

/-! ## Timestamps that tell of deeds -/

/-- Timestamps, oldest first, tell of all deeds that are near an instant, and do not reach the cap.
    -/
structure Fair (span cap since : Int) (deeds : List Deed) (recent : List Int) : Prop where
  told : ((deeds.filter (Deed.near span since)).map Deed.stamp).Sublist recent.reverse
  room : (recent.length : Int) < cap

/-- The deed of a call that went by fair timestamps keeps to the cap. -/
theorem Fair.capped {span cap since : Int} {deeds : List Deed} {recent : List Int}
    (fair : Fair span cap since deeds recent) (capped : Capped span cap deeds) {e : Deed}
    (he : e.since = since) : Capped span cap (e :: deeds) := by
  have h := fair.told.length_le
  have room := fair.room
  rw [List.length_map, List.length_reverse] at h
  exact ⟨by rw [he]; omega, capped⟩

/-- What such a call writes tells of its own deed as well. -/
theorem Fair.told_cons {span cap since : Int} {deeds : List Deed} {recent : List Int}
    (fair : Fair span cap since deeds recent) (e : Deed) :
    (((e :: deeds).filter (Deed.near span since)).map Deed.stamp).Sublist
      (recent ++ [e.stamp]).reverse := by
  rw [List.reverse_append, List.reverse_singleton, List.singleton_append]
  by_cases he : e.near span since = true
  · rw [List.filter_cons_of_pos he, List.map_cons]
    exact fair.told.cons_cons e.stamp
  · rw [List.filter_cons_of_neg he]
    exact fair.told.cons e.stamp

/-- A window keeps the timestamps of all deeds that are near an instant, where these lie in it. -/
theorem told_filter {span earlier since start : Int} {deeds : List Deed} {kept : List Int}
    (told : ((deeds.filter (Deed.near span earlier)).map Deed.stamp).Sublist kept.reverse)
    (later : earlier ≤ since)
    (inWindow : ∀ e ∈ deeds, e.near span since = true → start < e.stamp) :
    ((deeds.filter (Deed.near span since)).map Deed.stamp).Sublist
      (kept.filter (start < ·)).reverse := by
  have nearer : (deeds.filter (Deed.near span since)).Sublist
      (deeds.filter (Deed.near span earlier)) := by
    refine List.monotone_filter_right deeds ?_
    intro e he
    simp only [Deed.near, decide_eq_true_eq] at he ⊢
    omega
  have all : ((deeds.filter (Deed.near span since)).map Deed.stamp).filter (start < ·)
      = (deeds.filter (Deed.near span since)).map Deed.stamp := by
    refine List.filter_eq_self.2 ?_
    intro t ht
    obtain ⟨e, he, rfl⟩ := List.mem_map.1 ht
    obtain ⟨hm, hn⟩ := List.mem_filter.1 he
    exact decide_eq_true (inWindow e hm hn)
  rw [← all, ← List.filter_reverse]
  exact ((nearer.map Deed.stamp).trans told).filter _

end Turnstile

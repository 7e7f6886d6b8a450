import Turnstile.Cache
import Turnstile.Window
import Turnstile.Proofs.Json.RoundTrip

set_option autoImplicit false

/-! # Records read back

The text of a record of attempts, read back, is that record (`Json.read_write_record`), as long as
its integers have few enough digits to be written at all. So the timestamps that a limiter finds in
a record are those that were put in (`Window.eq_of_recent_record`), of which it keeps the ones in
its window. -/

namespace Turnstile

namespace Json

/-! ## Whole records -/

theorem integersFit_record (ts : List Int) :
    (Window.record ts).integersFit ↔ ∀ n ∈ ts, digitCount n.natAbs ≤ maxIntegerDigits := by
  simp [Window.record, integersFit, membersFit, itemsFit_iff]

/-- An integer in the range of binary64 numbers is short enough to be written. -/
theorem digitCount_le_of_inRange {n : Int} (h : inBinary64Range n) :
    digitCount n.natAbs ≤ maxIntegerDigits := by
  have bound : n.natAbs < 1 <<< 1024 - 1 <<< 970 := of_decide_eq_true h
  have short : ∀ k, n.natAbs < 1 <<< k → k ≤ maxIntegerDigits →
      n.natAbs < 10 ^ maxIntegerDigits := by
    intro k hn hk
    calc n.natAbs < 1 <<< k := hn
      _ = 2 ^ k := Nat.one_shiftLeft k
      _ ≤ 10 ^ k := Nat.pow_le_pow_left (by decide) k
      _ ≤ 10 ^ maxIntegerDigits := Nat.pow_le_pow_right (by decide) hk
  have small := short 1024 (Nat.lt_of_lt_of_le bound (Nat.sub_le _ _)) (by decide)
  exact (Nat.length_toDigits_le_iff (by decide) (by decide)).2 small

/-- So a record of integers in that range can be written. -/
theorem integersFit_record_of_inRange {ts : List Int} (h : ∀ n ∈ ts, inBinary64Range n) :
    (Window.record ts).integersFit :=
  (integersFit_record ts).2 fun n hn => digitCount_le_of_inRange (h n hn)

/-- The characters of a record around those of its list. -/
theorem writeValue_record (ts : List Int) :
    writeValue .stored (Window.record ts)
      = '\x7b' :: '"' :: ("attempts".toList
        ++ '"' :: ':' :: ' ' :: '[' :: (writeItems .stored (ts.map .int) ++ [']', '\x7d'])) := by
  have key : writeString true "attempts" = '"' :: ("attempts".toList ++ ['"']) := by decide
  simp [Window.record, writeValue, writeMembers, Style.stored, key]

/-- A record holds a list in an object. -/
theorem storable_record {ts : List Int} (fit : (Window.record ts).integersFit) :
    Storable 2 (Window.record ts) := by
  rw [integersFit_record] at fit
  refine .object (by simp) fun m hm => ?_
  rw [List.mem_singleton.1 hm]
  refine .list fun v hv => ?_
  obtain ⟨n, hn, rfl⟩ := List.mem_map.1 hv
  exact .int (fit n hn)

/-- **A record is read back.** Its text, where it has one, is read as the record. -/
theorem read_write_record {ts : List Int} (fit : (Window.record ts).integersFit) :
    Json.read ((Window.record ts).write .stored) = .ok (Window.record ts) :=
  read_write (storable_record fit) (by decide)

end Json

/-! ## The timestamps of a record -/

namespace Window

theorem attempts_null : attempts .null = [] := rfl

/-- The timestamps that a window keeps of integers are those after its start, in their order. -/
theorem later_int {since : Int} {ts kept : List Int} (h : later since (ts.map .int) = .ok kept) :
    kept = ts.filter (since < ·) := by
  induction ts generalizing kept with
  | nil => simpa [later] using h.symm
  | cons t rest ih =>
    simp only [List.map_cons, later, timestamp?] at h
    by_cases hr : inBinary64Range t = true
    · by_cases hs : since < t
      · simp only [hr, hs, if_true] at h
        cases hl : later since (rest.map .int) with
        | error f => simp [hl, Except.map] at h
        | ok more =>
          simp only [hl, Except.map, Except.ok.injEq] at h
          rw [← h, ih hl, List.filter_cons_of_pos (by simpa using hs)]
      · simp only [hr, hs, if_true, if_false] at h
        rw [List.filter_cons_of_neg (by simpa using hs)]
        exact ih h
    · simp [hr] at h

/-- A window tells the timestamps of integers that are all in the range of binary64 numbers. -/
theorem later_int_of_inRange {since : Int} {ts : List Int} (h : ∀ n ∈ ts, inBinary64Range n) :
    later since (ts.map .int) = .ok (ts.filter (since < ·)) := by
  induction ts with
  | nil => rfl
  | cons t rest ih =>
    have ht : inBinary64Range t = true := h t (by simp)
    have hr := ih fun n hn => h n (by simp [hn])
    by_cases hs : since < t <;> simp [later, timestamp?, ht, hs, hr, Except.map]

/-- The timestamps of a record that a window keeps. -/
theorem eq_of_recent_record {now seconds : Int} {ts kept : List Int}
    (h : recent (attempts (record ts)) now seconds = .ok kept) :
    kept = ts.filter (start now seconds < ·) :=
  later_int h

end Window

/-! ## The value of a stored record -/

namespace Cache

theorem valueOf_null : valueOf .null = .ok .null := rfl

/-- The value under a key that a record was written to. -/
theorem valueOf_record {ts : List Int} (fit : (Window.record ts).integersFit) :
    valueOf (.text ((Window.record ts).write .stored)) = .ok (Window.record ts) := by
  rw [valueOf, Json.read_write_record fit]

end Cache

end Turnstile

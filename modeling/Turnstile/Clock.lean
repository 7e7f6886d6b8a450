import Turnstile.Binary64.Basic

set_option autoImplicit false

/-! # Clocks

Time passes in whole milliseconds. Two clocks read it through binary64 numbers of seconds and so
lose a little: the monotonic clock, by which a lock handle tells its age, and the system clock,
which gives the wall clock back in milliseconds and may be one short. Neither can be read at a time
beyond the range of those numbers. -/

namespace Turnstile

/-- Why a clock cannot be read. -/
inductive ClockError where
  /-- The seconds are beyond the range of binary64 numbers. -/
  | secondsTooLarge
  /-- The seconds are in that range, and the milliseconds are beyond it. -/
  | millisTooLarge
deriving DecidableEq, Repr, Inhabited

def ClockError.message : ClockError → String
  | .secondsTooLarge => "integer division result too large for a float"
  | .millisTooLarge => "cannot convert float infinity to integer"

/-- Seconds as a binary64 number, from milliseconds. -/
def seconds (ms : Int) : Binary64 := .ofRatio ms 1000

/-- The seconds that a clock shows at a time in milliseconds. -/
def clockSeconds (ms : Int) : Except ClockError Binary64 :=
  if (seconds ms).isFinite then .ok (seconds ms) else .error .secondsTooLarge

/-- The monotonic clock can be read at an instant: the seconds until then are in the range of
    binary64 numbers. -/
def MonotonicReadable (t : Int) : Prop := ∃ x, clockSeconds t = .ok x

theorem monotonicReadable_iff {t : Int} : MonotonicReadable t ↔ (seconds t).isFinite := by
  unfold MonotonicReadable clockSeconds
  split <;> simp [*]

instance (t : Int) : Decidable (MonotonicReadable t) := decidable_of_iff' _ monotonicReadable_iff

theorem MonotonicReadable.clockSeconds_eq {t : Int} (readable : MonotonicReadable t) :
    clockSeconds t = .ok (seconds t) :=
  if_pos (monotonicReadable_iff.1 readable)

/-- A thousand, by which seconds become milliseconds. -/
def thousand : Binary64 := .ofInt 1000

/-- The milliseconds from one reading of the monotonic clock to another. -/
def millisBetween (earlier later : Binary64) : Binary64 := (later - earlier) * thousand

/-- The wall clock in whole milliseconds as read through seconds. -/
def systemMillis (wall : Int) : Except ClockError Int := do
  let s ← clockSeconds wall
  match (s * thousand).truncate? with
  | some ms => return ms
  | none => throw .millisTooLarge

/-- The milliseconds that a wait of `ms` takes, as it is given to the timer in seconds; none when
    that is beyond the range of binary64 numbers. -/
def pauseMillis? (ms : Int) : Option Int := (seconds ms * thousand).round?

/-- No time lies between a finite reading and itself. -/
theorem millisBetween_self (x : Binary64) (h : x.isFinite) : millisBetween x x = .zero false := by
  rw [millisBetween, Binary64.sub_self_of_isFinite x h]
  rfl

end Turnstile

import Turnstile.Log
import Turnstile.Metrics
import Turnstile.Store.Fault

set_option autoImplicit false

/-! # The system

Everything that the tasks of a run share: time, the store and the faults in its way, the counters,
the tokens given out so far, the clocks' skews and the lock handles kept under names. Beside it runs
a trace of the commands issued and of what was logged, in order. -/

namespace Turnstile

/-- A lock held under `key` as `token` since a reading of the monotonic
    clock, for `ttl` milliseconds. -/
structure LockHandle where
  key : String
  token : String
  ttl : Int
  acquiredAt : Binary64
deriving DecidableEq, Repr

/-- The clocks that a limiter may go by: that of one instance, which is skewed, or the system's,
    which is read through seconds. -/
inductive Clock where
  | skewed (index : Nat)
  | system
deriving DecidableEq, Repr

/-- What a trace tells of. -/
inductive TraceEvent where
  | connect (address : String)
  | command (c : Command) (result : Except Failure Json)
  | pause (ms : Int)

/-- An event with its instant and the task that it belongs to. -/
structure TraceEntry where
  time : Int
  task : Nat
  event : TraceEvent

/-- The state that tasks share. `elapsed` is the milliseconds since the run began, when the wall
    clock stood at `epoch`. -/
structure System where
  epoch : Int := 1700000000000
  elapsed : Int := 0
  store : Store := {}
  faults : List Fault := []
  tokens : Nat := 0
  skews : List Int := []
  handles : List (String × LockHandle) := []
  metrics : Metrics := {}
  trace : List TraceEntry := []
  logs : List LogEntry := []

namespace System

/-- The wall clock. -/
def wall (s : System) : Int := s.epoch + s.elapsed

/-- The reading of a clock, in milliseconds. -/
def read (s : System) : Clock → Except Failure Int
  | .skewed index => .ok (s.wall + s.skews.getD index 0)
  | .system => (systemMillis s.wall).mapError .noTime

/-- The reading of the monotonic clock. -/
def monotonic (s : System) : Except Failure Binary64 := (clockSeconds s.elapsed).mapError .noTime

theorem exists_monotonic {s : System} (readable : MonotonicReadable s.elapsed) :
    ∃ x, s.monotonic = .ok x := by
  rw [monotonic, readable.clockSeconds_eq]
  exact ⟨_, rfl⟩

/-- Let time pass; it never goes back. -/
def wait (s : System) (ms : Int) : System := { s with elapsed := s.elapsed + max 0 ms }

/-- Note an event of a task. -/
def note (s : System) (task : Nat) (event : TraceEvent) : System :=
  { s with trace := s.trace ++ [⟨s.elapsed, task, event⟩] }

/-- The store as seen now. -/
def get? (s : System) (key : String) : Option Entry := s.store.get? s.elapsed key

end System

end Turnstile

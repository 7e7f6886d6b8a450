import Turnstile.Clock
import Turnstile.Binary64.Decimal
import Turnstile.Text.Letter

set_option autoImplicit false

/-! # Metrics

Counters of requests and of attempt outcomes, and their text in the Prometheus exposition format. A
request is counted by its method, the template of its path and the class of its status. In a
template every segment that is not made of letters alone stands as a placeholder, so that
identifiers do not become labels. -/

namespace Turnstile

/-! ## Tallies -/

/-- A count for each thing counted, in the order in which each came first. -/
abbrev Tally (α : Type) := List (α × Nat)

namespace Tally

variable {α : Type} [DecidableEq α]

/-- Count one more `a`. -/
def bump (a : α) : Tally α → Tally α
  | [] => [(a, 1)]
  | (b, n) :: rest => if b = a then (b, n + 1) :: rest else (b, n) :: bump a rest

/-- How often `a` was counted. -/
def count (a : α) : Tally α → Nat
  | [] => 0
  | (b, n) :: rest => if b = a then n else count a rest

theorem count_bump (a b : α) (t : Tally α) :
    count b (bump a t) = count b t + if a = b then 1 else 0 := by
  induction t with
  | nil => by_cases h : a = b <;> simp [bump, count, h]
  | cons p rest ih =>
    obtain ⟨c, n⟩ := p
    by_cases hc : c = a
    · by_cases hb : c = b
      · simp [bump, count, hc, ← hb]
      · have : a ≠ b := fun h => hb (hc.trans h)
        simp [bump, count, hc, this]
    · by_cases hb : c = b
      · have : a ≠ b := fun h => hc (hb.trans h.symm)
        simp [bump, count, hb, this, this.symm]
      · simp [bump, count, hc, hb, ih]

end Tally

/-! ## What is counted -/

/-- The outcomes of handling an attempt. -/
inductive AttemptOutcome where
  | allowed
  | rateLimited
  | failOpen
  | cleared
deriving DecidableEq, Repr

def AttemptOutcome.name : AttemptOutcome → String
  | .allowed => "allowed"
  | .rateLimited => "rate_limited"
  | .failOpen => "fail_open"
  | .cleared => "cleared"

/-- Outcomes have names of their own. -/
theorem AttemptOutcome.name_injective : Function.Injective AttemptOutcome.name := by
  intro a b same
  cases a <;> cases b <;> first | rfl | simp [AttemptOutcome.name] at same

/-- The labels under which requests are counted together. -/
structure RequestSeries where
  method : String
  path : String
  status : String
deriving DecidableEq, Repr

/-- What stands in a template for a segment that is not made of letters alone. -/
def placeholder : List Char := ['\x7b', 'i', 'd', '\x7d']

/-- A path without the slashes at its ends. -/
def trimSlashes (path : List Char) : List Char :=
  ((path.dropWhile (· = '/')).reverse.dropWhile (· = '/')).reverse

/-- A segment as it stands in a template. -/
def templateSegment (segment : List Char) : List Char :=
  if segment ≠ [] ∧ segment.all isLetter then segment else placeholder

/-- The template of a path. -/
def pathTemplate (path : String) : String :=
  let segments := (trimSlashes path.toList).splitOn '/'
  String.ofList (segments.flatMap fun segment => '/' :: templateSegment segment)

/-- The class of a status: its hundreds, rounded down. -/
def statusClass (status : Int) : String := toString (status.fdiv 100) ++ "xx"

/-- The labels of a request. -/
def RequestSeries.of (method path : String) (status : Int) : RequestSeries :=
  ⟨method, pathTemplate path, statusClass status⟩

/-! ## The counters -/

/-- The counters, and the reading of the monotonic clock when the process started. -/
structure Metrics where
  requests : Tally RequestSeries := []
  outcomes : Tally String := []
  startedAt : Binary64 := seconds 0

namespace Metrics

def countRequest (method path : String) (status : Int) (m : Metrics) : Metrics :=
  { m with requests := m.requests.bump (.of method path status) }

def countOutcome (name : String) (m : Metrics) : Metrics :=
  { m with outcomes := m.outcomes.bump name }

/-- Forget all counts; the start stays. -/
def reset (m : Metrics) : Metrics := { m with requests := [], outcomes := [] }

/-- The order of series: by method, then path, then status, each by code points. -/
def seriesLe (a b : RequestSeries) : Bool :=
  if a.method ≠ b.method then a.method ≤ b.method
  else if a.path ≠ b.path then a.path ≤ b.path
  else a.status ≤ b.status

/-- The request counts in order. -/
def sortedRequests (m : Metrics) : List (RequestSeries × Nat) :=
  m.requests.mergeSort fun a b => seriesLe a.1 b.1

/-- The outcome counts in order of their names. -/
def sortedOutcomes (m : Metrics) : List (String × Nat) :=
  m.outcomes.mergeSort fun a b => a.1 ≤ b.1

/-! ## The exposition -/

/-- A sample with labels: `name{label="value",…} count`. Values are written as they are. -/
def sample (name : String) (labels : List (String × String)) (count : Nat) : String :=
  let pairs := labels.map fun (label, value) => label ++ "=\"" ++ value ++ "\""
  name ++ "\x7b" ++ String.intercalate "," pairs ++ "\x7d " ++ toString count

def requestSample (entry : RequestSeries × Nat) : String :=
  let (s, n) := entry
  sample "http_requests_total" [("method", s.method), ("path", s.path), ("status", s.status)] n

def outcomeSample (entry : String × Nat) : String :=
  sample "shared_secret_attempts_total" [("outcome", entry.1)] entry.2

/-- The lines of the request section. -/
def requestLines (m : Metrics) : List String :=
  ["# HELP http_requests_total Total HTTP requests by method, path, status class.",
    "# TYPE http_requests_total counter"] ++ m.sortedRequests.map requestSample

/-- The lines of the outcome section. -/
def outcomeLines (m : Metrics) : List String :=
  ["# HELP shared_secret_attempts_total Failed shared-secret attempt handling by outcome.",
    "# TYPE shared_secret_attempts_total counter"] ++ m.sortedOutcomes.map outcomeSample

/-- The lines of the uptime section, at a reading of the monotonic clock. -/
def uptimeLines (m : Metrics) (now : Binary64) : List String :=
  ["# HELP process_uptime_seconds Process uptime in seconds.",
    "# TYPE process_uptime_seconds gauge",
    "process_uptime_seconds " ++ (now - m.startedAt).fixed 2]

/-- The whole text: the three sections with an empty line between them. -/
def exposition (m : Metrics) (now : Binary64) : String :=
  let lines := m.requestLines ++ [""] ++ m.outcomeLines ++ [""] ++ m.uptimeLines now
  String.join (lines.map (· ++ "\n"))

end Metrics

end Turnstile

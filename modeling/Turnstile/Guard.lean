import Turnstile.Limiter
import Turnstile.Secret.Hash

set_option autoImplicit false

/-! # The guard

Checks a shared secret against its hash, with the limiter in front: a subject over its cap is turned
away whatever it presents, a match clears its record, and a mismatch is recorded. Secret and hash
are values as a request brings them; what is neither absent nor a text is a failure. -/

namespace Turnstile

namespace Guard

/-- Note a decision on a world for the audit. -/
def audit (world outcome requestId : String) : Routine Unit :=
  Routine.log .info .access
    s!"action=shared_secret world={world} success={outcome} request_id={requestId}"

/-- Turn a subject away. -/
def refuse (world requestId : String) : Routine Bool := do
  audit world "false reason=rate_limited" requestId
  throw (.rateLimited world)

/-- Two values match as a secret and its hash. A value that is null, empty or zero matches nothing;
    any other has to be a text. -/
def matching (plain hashed : Json) : Except Failure Bool :=
  if !plain.truthy || !hashed.truthy then .ok false
  else
    match plain, hashed with
    | .text p, .text h => .ok (Bcrypt.verify Bcrypt.digest (some p) (some h))
    | _, _ => .error .wrongShape

/-- What is presented as texts, or not at all, is verified. -/
theorem matching_textOrNull (plain hashed : Option String) :
    matching (Json.textOrNull plain) (Json.textOrNull hashed)
      = .ok (Bcrypt.verify Bcrypt.digest plain hashed) := by
  cases plain with
  | none => simp [matching, Json.textOrNull, Json.truthy, Bcrypt.verify]
  | some p =>
    cases hashed with
    | none => simp [matching, Json.textOrNull, Json.truthy, Bcrypt.verify]
    | some h =>
      by_cases hp : p = ""
      · simp [matching, Json.textOrNull, Json.truthy, Bcrypt.verify, hp]
        cases Bcrypt.hashText Bcrypt.digest "" h <;> rfl
      · by_cases hh : h = ""
        · simp [matching, Json.textOrNull, Json.truthy, Bcrypt.verify, hh]
          cases Bcrypt.hashText Bcrypt.digest p "" <;> rfl
        · simp [matching, Json.textOrNull, Json.truthy, hp, hh]

/-- The secret matches the hash. A subject that is, or has just become, over its cap is refused with
    a failure. -/
def check (l : Limiter) (requestId world subject : String) (plain hashed : Json) :
    Routine Bool := do
  if ← l.isLimited world subject then refuse world requestId
  else if ← Routine.ofExcept (matching plain hashed) then
    Limiter.clear world subject
    audit world "true" requestId
    return true
  else if ← l.recordFailure world subject then refuse world requestId
  else
    audit world "false reason=invalid" requestId
    return false

end Guard

end Turnstile

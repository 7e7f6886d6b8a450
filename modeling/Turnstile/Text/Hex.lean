set_option autoImplicit false

/-! # Hexadecimal digits

The value of a digit, in either case. Numbers are written with `Nat.toDigits`, in lower case. -/

namespace Turnstile

/-- The value of a hexadecimal digit of either case. -/
def hexValue? (c : Char) : Option Nat :=
  if '0' ≤ c ∧ c ≤ '9' then some (c.toNat - '0'.toNat)
  else if 'a' ≤ c ∧ c ≤ 'f' then some (c.toNat - 'a'.toNat + 10)
  else if 'A' ≤ c ∧ c ≤ 'F' then some (c.toNat - 'A'.toNat + 10)
  else none

theorem hexValue?_lt {c : Char} {n : Nat} (h : hexValue? c = some n) : n < 16 := by
  unfold hexValue? at h
  split at h
  · next hc =>
    have : c.toNat ≤ '9'.toNat := hc.2
    simp at h this
    omega
  · split at h
    · next hc =>
      have : c.toNat ≤ 'f'.toNat := hc.2
      simp at h this
      omega
    · split at h
      · next hc =>
        have : c.toNat ≤ 'F'.toNat := hc.2
        simp at h this
        omega
      · simp at h

end Turnstile

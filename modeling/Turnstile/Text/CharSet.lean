set_option autoImplicit false

/-! # Sets of characters

A set of characters is kept as the code numbers at which membership changes, in rising order, and a
character lies in it when an odd number of them are not above its own. -/

namespace Turnstile

/-- A set of characters, by the code numbers at which membership changes. -/
structure CharSet where
  boundaries : List Nat

/-- Membership. -/
def CharSet.contains (s : CharSet) (c : Char) : Bool :=
  s.boundaries.countP (· ≤ c.toNat) % 2 = 1

/-- The characters from `first` to `last`. -/
def CharSet.range (first last : Char) : CharSet := ⟨[first.toNat, last.toNat + 1]⟩

theorem CharSet.contains_range {first last : Char} (h : first ≤ last) (c : Char) :
    (range first last).contains c = true ↔ first ≤ c ∧ c ≤ last := by
  have hle : first.toNat ≤ last.toNat := h
  have hf : (first ≤ c) = (first.toNat ≤ c.toNat) := rfl
  have hl : (c ≤ last) = (c.toNat ≤ last.toNat) := rfl
  simp only [contains, range, List.countP_cons, List.countP_nil, decide_eq_true_eq, hf, hl]
  by_cases h1 : first.toNat ≤ c.toNat <;> by_cases h2 : last.toNat + 1 ≤ c.toNat <;>
    simp [h1, h2] <;> omega

end Turnstile

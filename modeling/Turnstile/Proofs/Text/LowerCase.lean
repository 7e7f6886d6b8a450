import Turnstile.Text.LowerCase

set_option autoImplicit false

/-! # Colons in lower case

Lower case changes letters only: a text has as many colons as its lower-case form
(`count_colon_lowerCase`). The table tells so, as each of its runs begins after the colon and leads
to characters after it. -/

namespace Turnstile

namespace LowerCase

/-- No letter stands at the colon or before it, and neither does its lower-case form. -/
theorem runs_after_colon : ∀ r ∈ runs, ':'.toNat < r.first ∧ (':'.toNat : Int) < r.first + r.offset
    := by
  decide +kernel

/-- A code number after the colon's is that of another character, or of none. -/
theorem ofNat_ne_colon {n : Nat} (after : ':'.toNat < n) : Char.ofNat n ≠ ':' := by
  intro h
  by_cases valid : n.isValidChar
  · have number : (Char.ofNat n).toNat = n := by
      rw [Char.ofNat, dif_pos valid]
      rfl
    rw [h] at number
    omega
  · rw [Char.ofNat, dif_neg valid] at h
    exact absurd h (by decide)

/-- Only a colon has a colon for its lower-case form. -/
theorem simple_eq_colon_iff (c : Char) : simple c = ':' ↔ c = ':' := by
  simp only [simple]
  split
  · next r found =>
    obtain ⟨first, image⟩ := runs_after_colon r (List.mem_of_find?_eq_some found)
    have covers := List.find?_some found
    simp only [Bool.and_eq_true, decide_eq_true_eq] at covers
    have other : c ≠ ':' := by
      rintro rfl
      omega
    simp only [other, iff_false]
    refine ofNat_ne_colon ?_
    omega
  · rfl

/-- The lower-case form of a character is, or has, a colon where the character is one. -/
theorem count_colon_charIn (before : List Char) (c : Char) (after : List Char) :
    (charIn before c after).count ':' = [c].count ':' := by
  unfold charIn
  split
  · next h =>
    simp only [Bool.and_eq_true, decide_eq_true_eq] at h
    rw [h.1.1]
    decide
  · split
    · next h =>
      rw [h]
      decide
    · simp only [List.count_singleton, beq_iff_eq, simple_eq_colon_iff]

theorem count_colon_textAfter (before cs : List Char) :
    (textAfter before cs).count ':' = cs.count ':' := by
  induction cs generalizing before with
  | nil => rfl
  | cons c rest ih =>
    rw [textAfter, List.count_append, count_colon_charIn, ih, ← List.count_append,
      List.singleton_append]

end LowerCase

/-- Lower case neither adds nor removes a colon. -/
theorem count_colon_lowerCase (s : String) :
    (lowerCase s).toList.count ':' = s.toList.count ':' := by
  rw [lowerCase, String.toList_ofList]
  exact LowerCase.count_colon_textAfter [] s.toList

end Turnstile

set_option autoImplicit false

/-! # Cutting text

A text cut at the first or the last place where a character stands. -/

namespace Turnstile

/-- What stands before the first `c`, and what stands after it when there is one. -/
def cutAt (c : Char) (cs : List Char) : List Char × Option (List Char) :=
  match cs.dropWhile (· ≠ c) with
  | [] => (cs, none)
  | _ :: after => (cs.takeWhile (· ≠ c), some after)

/-- What stands before the last `c` when there is one, and what stands after it. -/
def cutAtLast (c : Char) (cs : List Char) : Option (List Char) × List Char :=
  let (after, before) := cutAt c cs.reverse
  (before.map List.reverse, after.reverse)

theorem cutAt_of_some {c : Char} {cs before after : List Char}
    (h : cutAt c cs = (before, some after)) : cs = before ++ c :: after := by
  unfold cutAt at h
  split at h
  · simp at h
  · next d rest hd =>
    have hsplit := List.takeWhile_append_dropWhile (p := fun x => decide (x ≠ c)) (l := cs)
    have hc : d = c := by
      have := List.head?_dropWhile_not (fun x => decide (x ≠ c)) cs
      rw [hd] at this
      simpa using this
    simp only [Prod.mk.injEq, Option.some.injEq] at h
    rw [← hsplit, hd, h.1, h.2, hc]

end Turnstile

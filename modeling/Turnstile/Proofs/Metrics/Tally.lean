import Mathlib.Data.List.Nodup
import Mathlib.Order.Lattice
import Turnstile.Metrics

set_option autoImplicit false

/-! # Tallies

What a tally holds after some things were counted: their numbers add up (`Tally.total_bumps`), each
is counted as often as it came (`Tally.count_bumps`), and each that came has one entry, with its
number (`Tally.IsExact.mem_iff`). So the numbers determine the entries but for their order, and
wholly where these are sorted (`Tally.IsExact.sorted_eq_iff`). -/

namespace Turnstile

namespace Tally

variable {α : Type} [DecidableEq α] {t t' : Tally α}

/-- The things that were counted, in the order in which each came first. -/
def keys (t : Tally α) : List α := t.map (·.1)

/-- How much was counted in all. -/
def total : Tally α → Nat
  | [] => 0
  | (_, n) :: rest => n + total rest

/-- Each thing has one entry, and came at least once. -/
structure IsExact (t : Tally α) : Prop where
  keys : t.keys.Nodup
  counts : ∀ entry ∈ t, 0 < entry.2

/-! ## One more -/

theorem total_bump (a : α) (t : Tally α) : (t.bump a).total = t.total + 1 := by
  induction t with
  | nil => rfl
  | cons entry rest ih =>
    obtain ⟨b, n⟩ := entry
    by_cases same : b = a
    · simp only [bump, same, if_true, total]
      omega
    · simp only [bump, same, if_false, total, ih, Nat.add_assoc]

/-- A thing that comes for the first time is entered behind the others. -/
theorem keys_bump (a : α) (t : Tally α) :
    (t.bump a).keys = if a ∈ t.keys then t.keys else t.keys ++ [a] := by
  induction t with
  | nil => rfl
  | cons entry rest ih =>
    obtain ⟨b, n⟩ := entry
    by_cases same : b = a
    · simp [bump, same, keys]
    · have other : a ≠ b := Ne.symm same
      have first : keys (bump a ((b, n) :: rest)) = b :: keys (bump a rest) := by
        simp [bump, same, keys]
      have before : keys ((b, n) :: rest) = b :: keys rest := rfl
      rw [first, before, ih]
      simp only [List.mem_cons, other, false_or]
      split <;> rfl

theorem counts_bump (counts : ∀ entry ∈ t, 0 < entry.2) (a : α) :
    ∀ entry ∈ t.bump a, 0 < entry.2 := by
  induction t with
  | nil => simp [bump]
  | cons entry rest ih =>
    obtain ⟨b, n⟩ := entry
    rw [List.forall_mem_cons] at counts
    by_cases same : b = a
    · rw [bump, if_pos same]
      exact List.forall_mem_cons.2 ⟨Nat.succ_pos n, counts.2⟩
    · rw [bump, if_neg same]
      exact List.forall_mem_cons.2 ⟨counts.1, ih counts.2⟩

/-! ## In order -/

section Sorted

variable {β : Type} [LinearOrder β] (rank : α → β)

/-- The entries by the rank of what was counted. -/
def sorted (t : Tally α) : Tally α := t.mergeSort fun a b => rank a.1 ≤ rank b.1

omit [DecidableEq α] in
theorem perm_sorted (t : Tally α) : (t.sorted rank).Perm t := List.mergeSort_perm _ _

omit [DecidableEq α] in
theorem pairwise_sorted (t : Tally α) :
    (t.sorted rank).Pairwise fun a b => rank a.1 ≤ rank b.1 := by
  refine (List.pairwise_mergeSort ?_ ?_ t).imp of_decide_eq_true
  · intro a b c ab bc
    exact decide_eq_true ((of_decide_eq_true ab).trans (of_decide_eq_true bc))
  · intro a b
    simpa using le_total (rank a.1) (rank b.1)

end Sorted

/-! ## One entry each -/

namespace IsExact

omit [DecidableEq α] in
theorem nil : IsExact ([] : Tally α) := ⟨List.nodup_nil, by simp⟩

theorem bump (ht : t.IsExact) (a : α) : (t.bump a).IsExact := by
  refine ⟨?_, counts_bump ht.counts a⟩
  rw [keys_bump]
  split
  · exact ht.keys
  · next new =>
    rw [← List.concat_eq_append]
    exact List.Nodup.concat new ht.keys

/-- The entries are the things that came, each with its number. -/
theorem mem_iff (ht : t.IsExact) (a : α) (n : Nat) : (a, n) ∈ t ↔ 0 < n ∧ n = t.count a := by
  induction t with
  | nil => simp [count]; omega
  | cons entry rest ih =>
    obtain ⟨b, m⟩ := entry
    obtain ⟨keys, counts⟩ := ht
    rw [List.forall_mem_cons] at counts
    obtain ⟨new, keys⟩ := List.nodup_cons.1 keys
    have ih := ih ⟨keys, counts.2⟩
    by_cases same : b = a
    · subst same
      have none : (b, n) ∉ rest := fun h => new (List.mem_map.2 ⟨_, h, rfl⟩)
      have first : 0 < m := counts.1
      simp [count, none]
      omega
    · have other : a ≠ b := Ne.symm same
      simp [count, same, other, ih]

omit [DecidableEq α] in
theorem nodup (ht : t.IsExact) : t.Nodup :=
  (show (t.map (·.1)).Nodup from ht.keys).of_map

/-- The entries are the same, but for their order, where all numbers are. -/
theorem perm_iff (ht : t.IsExact) (ht' : t'.IsExact) :
    t.Perm t' ↔ ∀ a, t.count a = t'.count a := by
  rw [List.perm_ext_iff_of_nodup ht.nodup ht'.nodup]
  constructor
  · intro same a
    have entries := fun n => same (a, n)
    simp only [ht.mem_iff, ht'.mem_iff] at entries
    have here := entries (t.count a)
    have there := entries (t'.count a)
    omega
  · rintro same ⟨a, n⟩
    rw [ht.mem_iff, ht'.mem_iff, same]

/-- Sorted entries are the same where all numbers are. -/
theorem sorted_eq_iff {β : Type} [LinearOrder β] {rank : α → β}
    (injective : Function.Injective rank) (ht : t.IsExact) (ht' : t'.IsExact) :
    t.sorted rank = t'.sorted rank ↔ ∀ a, t.count a = t'.count a := by
  rw [← ht.perm_iff ht']
  constructor
  · intro same
    exact (perm_sorted rank t).symm.trans (same ▸ perm_sorted rank t')
  · intro perm
    refine List.Perm.eq_of_pairwise ?_ (pairwise_sorted rank t) (pairwise_sorted rank t')
      ((perm_sorted rank t).trans (perm.trans (perm_sorted rank t').symm))
    rintro ⟨a, n⟩ ⟨b, k⟩ here there le ge
    obtain rfl := injective (le_antisymm le ge)
    rw [(perm_sorted rank t).mem_iff, ht.mem_iff] at here
    rw [(perm_sorted rank t').mem_iff, ← perm.mem_iff, ht.mem_iff] at there
    rw [here.2, there.2]

end IsExact

/-! ## Many more -/

/-- Count some things, one after the other. -/
def bumps (xs : List α) (t : Tally α) : Tally α := xs.foldl (fun t a => t.bump a) t

theorem bumps_append (xs ys : List α) (t : Tally α) :
    t.bumps (xs ++ ys) = (t.bumps xs).bumps ys := List.foldl_append

theorem total_bumps (xs : List α) (t : Tally α) : (t.bumps xs).total = t.total + xs.length := by
  induction xs generalizing t with
  | nil => rfl
  | cons a rest ih =>
    have later : (t.bumps (a :: rest)).total = (t.bump a).total + rest.length := ih (t.bump a)
    rw [later, total_bump, List.length_cons, Nat.add_assoc, Nat.add_comm 1]

theorem count_bumps (xs : List α) (t : Tally α) (a : α) :
    (t.bumps xs).count a = t.count a + xs.count a := by
  induction xs generalizing t with
  | nil => rfl
  | cons b rest ih =>
    have later : (t.bumps (b :: rest)).count a = (t.bump b).count a + rest.count a :=
      ih (t.bump b)
    rw [later, count_bump, List.count_cons]
    simp only [beq_iff_eq]
    omega

/-- Things that come for the first time are entered behind the others, once each. -/
theorem keys_bumps (xs : List α) (t : Tally α) :
    ∃ fresh, (t.bumps xs).keys = t.keys ++ fresh ∧ fresh.Nodup ∧ ∀ a ∈ fresh, a ∈ xs ∧ a ∉ t.keys
    := by
  induction xs generalizing t with
  | nil => exact ⟨[], by simp [bumps]⟩
  | cons a rest ih =>
    obtain ⟨fresh, keys, nodup, came⟩ := ih (t.bump a)
    rw [keys_bump] at keys came
    split at keys
    · next old =>
      rw [if_pos old] at came
      exact ⟨fresh, keys, nodup, fun b hb => ⟨List.mem_cons_of_mem _ (came b hb).1, (came b hb).2⟩⟩
    · next new =>
      rw [if_neg new] at came
      refine ⟨a :: fresh, keys.trans (List.append_cons _ _ _).symm, ?_, ?_⟩
      · exact List.nodup_cons.2 ⟨fun again => (came a again).2 (by simp), nodup⟩
      · rintro b (_ | ⟨_, hb⟩)
        · exact ⟨List.mem_cons_self, new⟩
        · exact ⟨List.mem_cons_of_mem _ (came b hb).1,
            fun old => (came b hb).2 (List.mem_append_left _ old)⟩

theorem IsExact.bumps (ht : t.IsExact) (xs : List α) : (t.bumps xs).IsExact := by
  induction xs generalizing t with
  | nil => exact ht
  | cons a rest ih => exact ih (ht.bump a)

end Tally

end Turnstile

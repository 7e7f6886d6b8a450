import Turnstile.Proofs.Json.Doubles

set_option autoImplicit false

/-! # Pruning twice

A window keeps the numbers of a list that are later than its start, and each as its integer part. A
number with a fraction may be later than the start while its integer part is not: it `Grazes` the
start. So what a window keeps is later than its start but for what grazes it, and a window of what
an earlier one kept loses just that (`Window.recent_twice`). -/

namespace Turnstile

/-! ## Integer parts -/

namespace Binary64

variable {x : Binary64} {since n : Int}

/-- A number that is later than an instant has an integer part that is not before it. -/
theorem le_of_exceeds (truncates : x.truncate? = some n) (exceeds : x.exceeds since) :
    since ≤ n := by
  cases x with
  | finite s m q =>
    have pos : (0 : Int) < (scaleDown m 1 (-q)).2 := by exact_mod_cast scaleDown_pos m Nat.one_pos _
    simp only [Binary64.exceeds, decide_eq_true_eq] at exceeds
    simp only [truncate?, Option.some.injEq] at truncates
    generalize (scaleDown m 1 (-q)).1 = num at exceeds truncates
    generalize (scaleDown m 1 (-q)).2 = den at exceeds truncates pos
    have floor := Int.ediv_mul_le (num : Int) pos.ne'
    rw [← truncates, Int.natCast_ediv]
    cases s with
    | false => exact Int.le_ediv_of_mul_le pos exceeds.le
    | true =>
      have less : since * den < -(num / den : Int) * den := by
        rw [Int.neg_mul]
        exact exceeds.trans_le (Int.neg_le_neg floor)
      exact (lt_of_mul_lt_mul_right less pos.le).le
  | _ => cases truncates

/-- A number whose integer part is later than an instant is later itself. -/
theorem exceeds_of_lt (truncates : x.truncate? = some n) (later : since < n) :
    x.exceeds since := by
  cases x with
  | finite s m q =>
    have pos : (0 : Int) < (scaleDown m 1 (-q)).2 := by exact_mod_cast scaleDown_pos m Nat.one_pos _
    simp only [exceeds, decide_eq_true_eq]
    simp only [truncate?, Option.some.injEq] at truncates
    generalize (scaleDown m 1 (-q)).1 = num at truncates ⊢
    generalize (scaleDown m 1 (-q)).2 = den at truncates pos ⊢
    rw [← truncates, Int.natCast_ediv] at later
    cases s with
    | false =>
      calc since * den < (num / den : Int) * den := Int.mul_lt_mul_of_pos_right later pos
        _ ≤ num := Int.ediv_mul_le _ pos.ne'
    | true =>
      have before : (num / den : Int) + 1 ≤ -since := by
        simp only [if_true] at later
        omega
      have next : (num : Int) < -since * den :=
        (Int.lt_ediv_add_one_mul_self (num : Int) pos).trans_le
          (Int.mul_le_mul_of_nonneg_right before pos.le)
      rw [Int.neg_mul] at next
      simp only [if_true]
      omega
  | _ => cases truncates

end Binary64

/-! ## What a window keeps -/

namespace Window

variable {since since' n : Int} {item : Json} {items : List Json} {kept kept' : List Int}

/-- The item is a number later than an instant, with an integer part that is not. -/
def Grazes (since : Int) (item : Json) : Prop :=
  ∃ x, item = .double x ∧ x.exceeds since ∧ x.truncate? = some since

theorem timestamp?_of_grazes (grazes : Grazes since item) :
    timestamp? since item = .ok (some since) := by
  obtain ⟨x, rfl, exceeds, truncates⟩ := grazes
  rw [timestamp?, if_pos exceeds, truncates]

/-- What an item counts as is later than the start of the window, or the item grazes that. -/
theorem lt_or_grazes (counts : timestamp? since item = .ok (some n)) :
    since < n ∨ n = since ∧ Grazes since item := by
  cases item with
  | int m =>
    simp only [timestamp?] at counts
    split at counts
    · split at counts
      · next later =>
        cases counts
        exact .inl later
      · cases counts
    · cases counts
  | double x =>
    simp only [timestamp?] at counts
    split at counts
    · next exceeds =>
      have truncates : x.truncate? = some n := Except.ok.inj counts
      rcases (Binary64.le_of_exceeds truncates exceeds).lt_or_eq with later | rfl
      · exact .inl later
      · exact .inr ⟨rfl, x, rfl, exceeds, truncates⟩
    · cases counts
  | _ => cases counts

/-- What is kept under two conditions that hold of whatever is later than an instant is the same but
    for what is not. -/
theorem filter_kept {c c' : Prop} [Decidable c] [Decidable c'] (holds : since' < n → c)
    (holds' : since' < n → c') :
    (if c then some n else none).filter (since' < ·)
      = (if c' then some n else none).filter (since' < ·) := by
  by_cases later : since' < n
  · rw [if_pos (holds later), if_pos (holds' later)]
  · have none : ∀ (d : Prop) [Decidable d],
        (if d then some n else none).filter (since' < ·) = none := by
      intro d _
      split <;> simp [Int.not_lt.1 later]
    rw [none, none]

/-- A later window counts an item as an earlier one does, but for what is not later than its start.
    -/
theorem timestamp?_later (le : since ≤ since') {ts ts' : Option Int}
    (first : timestamp? since item = .ok ts) (second : timestamp? since' item = .ok ts') :
    ts.filter (since' < ·) = ts'.filter (since' < ·) := by
  cases item with
  | int m =>
    simp only [timestamp?] at first second
    split at first
    · next inRange =>
      simp only [inRange, if_true] at second
      cases first
      cases second
      exact filter_kept (fun later => by omega) id
    · cases first
  | double x =>
    simp only [timestamp?] at first second
    cases truncates : x.truncate? with
    | none =>
      rw [truncates] at first second
      simp only [ite_self, Except.ok.injEq] at first second
      rw [← first, ← second]
    | some n =>
      rw [truncates] at first second
      cases first
      cases second
      exact filter_kept (fun later => Binary64.exceeds_of_lt truncates (by omega))
        (Binary64.exceeds_of_lt truncates)
  | _ =>
    cases first
    cases second
    rfl

/-- What a window keeps of a list is what it keeps of the first item, and of the others. -/
theorem later_cons_iff :
    later since (item :: items) = .ok kept
      ↔ ∃ ts more, timestamp? since item = .ok ts ∧ later since items = .ok more
        ∧ kept = ts.toList ++ more := by
  rw [later]
  cases timestamp? since item with
  | error f => simp
  | ok ts =>
    cases ts with
    | none => simp [eq_comm]
    | some n => cases later since items <;> simp [Except.map, eq_comm]

/-- A window keeps what its items count as. -/
theorem mem_later_iff (keeps : later since items = .ok kept) :
    n ∈ kept ↔ ∃ item ∈ items, timestamp? since item = .ok (some n) := by
  induction items generalizing kept with
  | nil =>
    cases keeps
    simp
  | cons item rest ih =>
    obtain ⟨ts, more, counts, others, rfl⟩ := later_cons_iff.1 keeps
    simp only [List.mem_append, Option.mem_toList, ih others, List.exists_mem_cons_iff, counts,
      Except.ok.injEq]

/-- What an earlier window keeps is what a later one keeps, but for what is not later than the start
    of that. -/
theorem later_later (le : since ≤ since') (first : later since items = .ok kept)
    (second : later since' items = .ok kept') :
    kept.filter (since' < ·) = kept'.filter (since' < ·) := by
  induction items generalizing kept kept' with
  | nil =>
    cases first
    cases second
    rfl
  | cons item rest ih =>
    obtain ⟨ts, more, counts, others, rfl⟩ := later_cons_iff.1 first
    obtain ⟨ts', more', counts', others', rfl⟩ := later_cons_iff.1 second
    have alike := congrArg Option.toList (timestamp?_later le counts counts')
    rw [Option.toList_filter, Option.toList_filter] at alike
    rw [List.filter_append, List.filter_append, alike, ih others others']

/-- What a window keeps of a list is in the range of binary64 numbers, where no double is beyond it.
    -/
theorem inRange_of_later (format : ∀ x, .double x ∈ items → x.InFormat)
    (keeps : later since items = .ok kept) : ∀ n ∈ kept, inBinary64Range n := by
  intro n hn
  obtain ⟨item, hi, counts⟩ := (mem_later_iff keeps).1 hn
  cases item with
  | int m =>
    simp only [timestamp?] at counts
    split at counts
    · next inRange =>
      split at counts
      · cases counts
        exact inRange
      · cases counts
    · cases counts
  | double x =>
    simp only [timestamp?] at counts
    split at counts
    · exact (format x hi).inRange (Except.ok.inj counts)
    · cases counts
  | _ => cases counts

/-- **Pruning twice.** Two windows of one length, the second no earlier than the first, each keep some
    of a list. All that the first keeps is later than its start, but for what grazes that. A second
    window of what the first keeps is a second window of the list without what grazes its start. So
    the two agree exactly where nothing does. -/
theorem recent_twice {earlier now seconds : Int} (le : earlier ≤ now)
    (format : ∀ x, .double x ∈ items → x.InFormat)
    (first : recent items earlier seconds = .ok kept)
    (second : recent items now seconds = .ok kept') :
    (∀ n ∈ kept, start earlier seconds < n
        ∨ n = start earlier seconds ∧ ∃ item ∈ items, Grazes n item)
      ∧ recent (kept.map .int) now seconds = .ok (kept'.filter (start now seconds < ·))
      ∧ (recent (kept.map .int) now seconds = .ok kept'
          ↔ ∀ item ∈ items, ¬Grazes (start now seconds) item) := by
  have order : start earlier seconds ≤ start now seconds := by
    rw [start, start]
    omega
  have again : recent (kept.map .int) now seconds = .ok (kept'.filter (start now seconds < ·)) := by
    rw [recent, later_int_of_inRange (inRange_of_later format first), later_later order first second]
  refine ⟨fun n hn => ?_, again, ?_⟩
  · obtain ⟨item, hi, counts⟩ := (mem_later_iff first).1 hn
    rcases lt_or_grazes counts with later | ⟨rfl, grazes⟩
    · exact .inl later
    · exact .inr ⟨rfl, item, hi, grazes⟩
  · rw [again, Except.ok.injEq, List.filter_eq_self]
    constructor
    · intro all item hi grazes
      have counted := (mem_later_iff second).2 ⟨item, hi, timestamp?_of_grazes grazes⟩
      simpa using all _ counted
    · intro none n hn
      obtain ⟨item, hi, counts⟩ := (mem_later_iff second).1 hn
      rcases lt_or_grazes counts with later | ⟨-, grazes⟩
      · exact decide_eq_true later
      · exact absurd grazes (none item hi)

/-- A list with numbers that have fractions, among other items. -/
def mixedItems : List Json :=
  [.double (.ofDecimal false 105 (-1)), .int 20, .text "x", .double (.ofDecimal true 25 (-1)),
    .double (.ofDecimal false 115 (-1))]

/-- A window from 11 keeps the integer part of 11.5, and loses it after a window from 10. -/
theorem recent_twice_of_mixedItems :
    recent mixedItems 60010 60 = .ok [10, 20, 11] ∧ recent mixedItems 60011 60 = .ok [20, 11]
      ∧ recent ([10, 20, 11].map .int) 60011 60 = .ok [20] := by
  have format : ∀ x, .double x ∈ mixedItems → x.InFormat := by
    intro x hx
    simp only [mixedItems, List.mem_cons, List.not_mem_nil, or_false, Json.double.injEq,
      reduceCtorEq, false_or] at hx
    rcases hx with rfl | rfl | rfl
    · exact Json.inFormat_ofDecimal _ _ _
    · exact Json.inFormat_ofDecimal _ _ _
    · exact Json.inFormat_ofDecimal _ _ _
  have first : recent mixedItems 60010 60 = .ok [10, 20, 11] := by decide +kernel
  have second : recent mixedItems 60011 60 = .ok [20, 11] := by decide +kernel
  exact ⟨first, second, (recent_twice (by decide) format first second).2.1⟩

/-- What a window keeps may be no later than its start, and lost to the next window at once. -/
theorem kept_at_start :
    recent [.double (.ofDecimal false 105 (-1))] 60010 60 = .ok [10] ∧ start 60010 60 = 10
      ∧ recent [.int 10] 60010 60 = .ok [] := by
  decide +kernel

end Window

end Turnstile

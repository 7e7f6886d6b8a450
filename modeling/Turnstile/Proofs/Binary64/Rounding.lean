import Mathlib.Algebra.Order.Field.Power
import Mathlib.Data.Nat.Cast.Order.Field
import Mathlib.Data.Rat.Lemmas
import Mathlib.Tactic.FieldSimp
import Mathlib.Tactic.Linarith
import Mathlib.Tactic.NormNum
import Mathlib.Tactic.Positivity
import Mathlib.Tactic.Ring
import Turnstile.Clock

set_option autoImplicit false

/-! # Rounding

How far what is rounded lies from what it stands for. A result that is neither too large nor too
small for the format is off by at most a part in `2^53` (`nearest_close`), and so are differences
and products. Times in milliseconds that go through seconds and back come out as they were
(`pauseMillis?_eq`), unless they are huge. -/

namespace Turnstile

/-- A number is off from an exact value by at most a part in `2^53`. -/
def Near (x v : ℚ) : Prop := |x - v| ≤ |v| * 2 ^ (-53 : ℤ)

/-- An exact value is neither too large nor too small for the format, or it is zero. -/
def Regular (v : ℚ) : Prop := |v| < 2 ^ (1023 : ℤ) ∧ (v = 0 ∨ 2 ^ (-1022 : ℤ) ≤ |v|)

/-! ## Fractions -/

theorem scaleDown_ratio (num den : Nat) (q : Int) :
    ((scaleDown num den q).1 : ℚ) / (scaleDown num den q).2 = num / den * 2 ^ (-q) := by
  unfold scaleDown
  split
  · next positive =>
    obtain ⟨k, rfl⟩ := Int.eq_ofNat_of_zero_le positive
    simp only [Int.toNat_natCast, Nat.shiftLeft_eq, Nat.cast_mul, Nat.cast_pow, Nat.cast_ofNat,
      zpow_neg, zpow_natCast]
    rw [div_mul_eq_div_div, div_eq_mul_inv]
  · next negative =>
    obtain ⟨k, hk⟩ := Int.eq_ofNat_of_zero_le (by omega : 0 ≤ -q)
    rw [hk]
    simp only [Int.toNat_natCast, Nat.shiftLeft_eq, Nat.cast_mul, Nat.cast_pow, Nat.cast_ofNat,
      zpow_natCast]
    ring

theorem scaleDown_pos (num : Nat) {den : Nat} (positive : 0 < den) (q : Int) :
    0 < (scaleDown num den q).2 := by
  unfold scaleDown
  split
  · rw [Nat.shiftLeft_eq]
    exact Nat.mul_pos positive (Nat.two_pow_pos _)
  · exact positive

/-- Rounding to an integer is off by at most a half. -/
theorem halfEven_close (num : Nat) {den : Nat} (positive : 0 < den) :
    |(halfEven num den : ℚ) - num / den| ≤ 1 / 2 := by
  have hden : (0 : ℚ) < den := by exact_mod_cast positive
  have below : num % den < den := Nat.mod_lt num positive
  have split : (num : ℚ) = den * (num / den : ℕ) + (num % den : ℕ) := by
    exact_mod_cast (Nat.div_add_mod num den).symm
  have ratio : (num : ℚ) / den = (num / den : ℕ) + (num % den : ℕ) / den := by
    rw [div_eq_iff hden.ne', add_mul, div_mul_cancel₀ _ hden.ne', split]
    ring
  rw [ratio, halfEven]
  have rest : (0 : ℚ) ≤ (num % den : ℕ) / den := by positivity
  split
  · next low =>
    have half : 2 * ((num % den : ℕ) : ℚ) ≤ den := by
      rcases low with low | low
      · exact_mod_cast low.le
      · exact_mod_cast low.1.le
    have : ((num % den : ℕ) : ℚ) / den ≤ 1 / 2 := by
      rw [div_le_div_iff₀ hden (by norm_num)]
      linarith
    rw [abs_le]
    constructor <;> linarith
  · next high =>
    have half : (den : ℚ) ≤ 2 * ((num % den : ℕ) : ℚ) := by
      have : den ≤ 2 * (num % den) := by omega
      exact_mod_cast this
    have most : ((num % den : ℕ) : ℚ) / den ≤ 1 := by
      rw [div_le_one hden]
      exact_mod_cast below.le
    have : 1 / 2 ≤ ((num % den : ℕ) : ℚ) / den := by
      rw [div_le_div_iff₀ (by norm_num) hden]
      linarith
    push_cast
    rw [abs_le]
    constructor <;> linarith

/-- The power of two that rounding starts from is not too high. -/
theorem two_zpow_floorLog2_le {num den : Nat} (hnum : num ≠ 0) (hden : 0 < den) :
    (2 : ℚ) ^ floorLog2 num den ≤ num / den := by
  have dpos : (0 : ℚ) < den := by exact_mod_cast hden
  rw [floorLog2]
  simp only
  split
  · next le =>
    -- The guess is confirmed.
    have spos : (0 : ℚ) < (scaleDown num den ((Nat.log2 num : ℤ) - Nat.log2 den)).2 := by
      exact_mod_cast scaleDown_pos num hden _
    have one : 1 ≤ (num : ℚ) / den * 2 ^ (-((Nat.log2 num : ℤ) - Nat.log2 den)) := by
      rw [← scaleDown_ratio, le_div_iff₀ spos, one_mul]
      exact_mod_cast le
    rw [zpow_neg, ← div_eq_mul_inv, le_div_iff₀ (by positivity), one_mul] at one
    exact one
  · -- One less is always low enough.
    have low : ((2 ^ Nat.log2 num : ℕ) : ℚ) ≤ num := by exact_mod_cast Nat.log2_self_le hnum
    have high : (den : ℚ) ≤ ((2 ^ (Nat.log2 den + 1) : ℕ) : ℚ) := by
      exact_mod_cast Nat.lt_log2_self.le
    have exponent : (Nat.log2 num : ℤ) - Nat.log2 den - 1
        = (Nat.log2 num : ℤ) - (Nat.log2 den + 1 : ℕ) := by
      push_cast
      ring
    rw [exponent, zpow_sub₀ (by norm_num), zpow_natCast, zpow_natCast]
    push_cast at low high
    exact div_le_div₀ (by positivity) low dpos high

/-- The power of two that rounding starts from is not too low. -/
theorem lt_two_zpow_floorLog2 {num den : Nat} (hden : 0 < den) :
    (num : ℚ) / den < 2 ^ (floorLog2 num den + 1) := by
  have dpos : (0 : ℚ) < den := by exact_mod_cast hden
  rw [floorLog2]
  simp only
  split
  · -- One more than the guess is always high enough.
    have high : (num : ℚ) < ((2 ^ (Nat.log2 num + 1) : ℕ) : ℚ) := by
      exact_mod_cast Nat.lt_log2_self
    have low : ((2 ^ Nat.log2 den : ℕ) : ℚ) ≤ den := by
      exact_mod_cast Nat.log2_self_le hden.ne'
    have exponent : (Nat.log2 num : ℤ) - Nat.log2 den + 1
        = (Nat.log2 num + 1 : ℕ) - (Nat.log2 den : ℤ) := by
      push_cast
      ring
    rw [exponent, zpow_sub₀ (by norm_num), zpow_natCast, zpow_natCast]
    push_cast at low high
    exact div_lt_div₀ high low (by positivity) (by positivity)
  · next lt =>
    -- The guess is one too high.
    have spos : (0 : ℚ) < (scaleDown num den ((Nat.log2 num : ℤ) - Nat.log2 den)).2 := by
      exact_mod_cast scaleDown_pos num hden _
    have one : (num : ℚ) / den * 2 ^ (-((Nat.log2 num : ℤ) - Nat.log2 den)) < 1 := by
      rw [← scaleDown_ratio, div_lt_one spos]
      exact_mod_cast not_le.1 lt
    rw [zpow_neg, ← div_eq_mul_inv, div_lt_one (by positivity)] at one
    rw [sub_add_cancel]
    exact one

/-- Of larger numbers the nearest integer is not smaller. -/
theorem halfEven_mono {num num' : Nat} (den : Nat) (le : num ≤ num') :
    halfEven num den ≤ halfEven num' den := by
  have floors : num / den ≤ num' / den := Nat.div_le_div_right le
  have split := Nat.div_add_mod num den
  have split' := Nat.div_add_mod num' den
  unfold halfEven
  rcases floors.lt_or_eq with below | same
  · -- The smaller one rounds up to the floor of the larger at most.
    simp only
    split <;> split <;> omega
  · rw [same] at split ⊢
    simp only
    split <;> split <;> omega

/-! ## Numbers -/

namespace Binary64

/-- The value of a finite number. -/
def value : Binary64 → ℚ
  | .finite s m q => (if s then -1 else 1) * (m * 2 ^ q)
  | _ => 0

/-- A mantissa that is not too large can be packed. -/
theorem isFinite_pack (s : Bool) (m : Nat) {q : Int} (small : q ≤ 970) : (pack s m q).isFinite := by
  unfold pack
  by_cases carry : m = 1 <<< 53
  · simp only [carry, if_true]
    rw [if_neg (by omega)]
    rfl
  · simp only [carry, if_false]
    rw [if_neg (by omega)]
    rfl

/-- What packs a mantissa keeps its value, unless it is too large. -/
theorem value_pack {s : Bool} {m : Nat} {q : Int} (packed : (pack s m q).isFinite) :
    (pack s m q).value = (if s then -1 else 1) * (m * 2 ^ q) := by
  unfold pack at packed ⊢
  by_cases carry : m = 1 <<< 53
  · simp only [carry, if_true] at packed ⊢
    split at packed
    · cases packed
    · next small =>
      have whole : ((1 <<< 52 : ℕ) : ℚ) * 2 = (1 <<< 53 : ℕ) := by norm_num [Nat.shiftLeft_eq]
      rw [if_neg small, value, zpow_add₀ (by norm_num), zpow_one, ← whole]
      ring
  · simp only [carry, if_false] at packed ⊢
    split at packed
    · cases packed
    · next small =>
      rw [if_neg small]
      rfl

/-- The size of a fraction with its sign. -/
theorem abs_signed {s : Bool} {num den : Nat} {v : ℚ}
    (signed : (if s then -1 else 1) * ((num : ℚ) / den) = v) : |v| = num / den := by
  have sign : |(if s then -1 else 1 : ℚ)| = 1 := by cases s <;> simp
  rw [← signed, abs_mul, sign, one_mul, abs_of_nonneg (by positivity)]

/-- What is not too large is rounded to a finite number. -/
theorem isFinite_nearest {s : Bool} {num den : Nat} (hden : 0 < den) {v : ℚ}
    (signed : (if s then -1 else 1) * ((num : ℚ) / den) = v) (small : |v| < 2 ^ (1023 : ℤ)) :
    (nearest s num den).isFinite := by
  by_cases hnum : num = 0
  · simp [hnum, nearest, zero, isFinite]
  rw [abs_signed signed] at small
  have below : floorLog2 num den < 1023 := by
    rw [← zpow_lt_zpow_iff_right₀ (one_lt_two (α := ℚ))]
    exact lt_of_le_of_lt (two_zpow_floorLog2_le hnum hden) small
  rw [nearest, if_neg hnum]
  exact isFinite_pack _ _ (by omega)

/-- **Rounding is close.** Of an exact value that is not too small for the format, what it is
    rounded to is off by at most a part in `2^53`, if that is finite. -/
theorem near_nearest {s : Bool} {num den : Nat} (hden : 0 < den) {v : ℚ}
    (signed : (if s then -1 else 1) * ((num : ℚ) / den) = v)
    (large : v = 0 ∨ 2 ^ (-1022 : ℤ) ≤ |v|) (finite : (nearest s num den).isFinite) :
    Near (nearest s num den).value v := by
  have sign : |(if s then -1 else 1 : ℚ)| = 1 := by cases s <;> simp
  have size := abs_signed signed
  by_cases hnum : num = 0
  · subst hnum
    simp [nearest, zero, value, Near, ← signed]
  have dpos : (0 : ℚ) < den := by exact_mod_cast hden
  have npos : (0 : ℚ) < num := by exact_mod_cast Nat.pos_of_ne_zero hnum
  have pos : (0 : ℚ) < num / den := div_pos npos dpos
  rw [size] at large
  have normal : (2 : ℚ) ^ (-1022 : ℤ) ≤ num / den := by
    refine large.resolve_left fun zero => ?_
    rw [← abs_eq_zero, size] at zero
    exact pos.ne' zero
  have log := two_zpow_floorLog2_le hnum hden
  rw [nearest, if_neg hnum] at finite ⊢
  simp only at finite ⊢
  generalize hq : max (floorLog2 num den - 52) (-1074) = q at finite
  -- The unit of the last place is at most a part in `2^52`.
  have unit : (2 : ℚ) ^ q ≤ num / den * 2 ^ (-52 : ℤ) := by
    rcases le_total (floorLog2 num den - 52) (-1074) with h | h
    · rw [max_eq_right h] at hq
      rw [← hq, show (-1074 : ℤ) = -1022 + -52 by norm_num, zpow_add₀ (by norm_num)]
      exact mul_le_mul_of_nonneg_right normal (by positivity)
    · rw [max_eq_left h] at hq
      rw [← hq, show floorLog2 num den - 52 = floorLog2 num den + -52 by ring,
        zpow_add₀ (by norm_num)]
      exact mul_le_mul_of_nonneg_right log (by positivity)
  have rounded := halfEven_close (scaleDown num den q).1 (scaleDown_pos num hden q)
  rw [scaleDown_ratio] at rounded
  rw [value_pack finite, Near]
  generalize (halfEven (scaleDown num den q).1 (scaleDown num den q).2 : ℚ) = m at rounded
  -- Scaled back by the unit, the half of rounding is half a unit.
  have off : |m * 2 ^ q - num / den| ≤ 1 / 2 * 2 ^ q := by
    have : m * 2 ^ q - num / den = (m - num / den * 2 ^ (-q)) * 2 ^ q := by
      rw [sub_mul, mul_assoc, ← zpow_add₀ (by norm_num), neg_add_cancel, zpow_zero, mul_one]
    rw [this, abs_mul, abs_of_pos (by positivity : (0 : ℚ) < 2 ^ q)]
    exact mul_le_mul_of_nonneg_right rounded (by positivity)
  rw [size, ← signed, ← mul_sub, abs_mul, sign, one_mul]
  calc |m * 2 ^ q - num / den| ≤ 1 / 2 * 2 ^ q := off
    _ ≤ 1 / 2 * (num / den * 2 ^ (-52 : ℤ)) := by linarith
    _ = num / den * 2 ^ (-53 : ℤ) := by norm_num; ring

/-- In the range of the format rounding is close. -/
theorem nearest_close {s : Bool} {num den : Nat} (hden : 0 < den) {v : ℚ}
    (signed : (if s then -1 else 1) * ((num : ℚ) / den) = v) (regular : Regular v) :
    (nearest s num den).isFinite ∧ Near (nearest s num den).value v :=
  have finite := isFinite_nearest hden signed regular.1
  ⟨finite, near_nearest hden signed regular.2 finite⟩

/-- The size of an integer with its sign is the integer. -/
theorem sign_mul_natAbs (n : Int) :
    (if decide (n < 0) then -1 else 1 : ℚ) * (n.natAbs : ℕ) = n := by
  rw [Nat.cast_natAbs, Int.cast_abs]
  by_cases negative : n < 0
  · rw [if_pos (by simpa using negative), abs_of_neg (by exact_mod_cast negative)]
    ring
  · rw [if_neg (by simpa using negative), abs_of_nonneg (by exact_mod_cast Int.not_lt.1 negative)]
    ring

/-- The number nearest to a fraction is close to it. -/
theorem ofRatio_close (n : Int) {d : Nat} (hd : 0 < d) (regular : Regular ((n : ℚ) / d)) :
    (ofRatio n d).isFinite ∧ Near (ofRatio n d).value (n / d) := by
  refine nearest_close hd ?_ regular
  rw [← mul_div_assoc, sign_mul_natAbs]

/-- The number nearest to a scaled integer is close to it. -/
theorem ofScaled_close (n q : Int) (regular : Regular ((n : ℚ) * 2 ^ q)) :
    (ofScaled n q).isFinite ∧ Near (ofScaled n q).value (n * 2 ^ q) := by
  have rounds : ofScaled n q = nearest (n < 0) (scaleDown n.natAbs 1 (-q)).1
      (scaleDown n.natAbs 1 (-q)).2 := rfl
  rw [rounds]
  refine nearest_close (scaleDown_pos _ Nat.one_pos _) ?_ regular
  rw [scaleDown_ratio, neg_neg, Nat.cast_one, div_one, ← mul_assoc, sign_mul_natAbs]

/-! ## Arithmetic -/

theorem inUnits_value {s : Bool} {m : Nat} {q unit : Int} (le : unit ≤ q) :
    (inUnits s m q unit : ℚ) * 2 ^ unit = (if s then -1 else 1) * (m * 2 ^ q) := by
  obtain ⟨k, hk⟩ := Int.eq_ofNat_of_zero_le (by omega : 0 ≤ q - unit)
  have power : (2 : ℚ) ^ q = 2 ^ k * 2 ^ unit := by
    rw [← zpow_natCast, ← zpow_add₀ (by norm_num)]
    congr 1
    omega
  rw [inUnits, hk, power]
  cases s
  · simp [Nat.shiftLeft_eq, mul_assoc]
  · simp [Nat.shiftLeft_eq, mul_assoc]

/-- A difference is close to what it stands for. -/
theorem sub_close {x y : Binary64} (hx : x.isFinite) (hy : y.isFinite)
    (regular : Regular (x.value - y.value)) :
    (x - y).isFinite ∧ Near (x - y).value (x.value - y.value) := by
  cases x with
  | finite s m q =>
    cases y with
    | finite t n r =>
      have exact : (((inUnits s m q (min q r) - inUnits t n r (min q r) : Int)) : ℚ) * 2 ^ min q r
          = (finite s m q).value - (finite t n r).value := by
        rw [Int.cast_sub, sub_mul, inUnits_value (min_le_left q r),
          inUnits_value (min_le_right q r)]
        rfl
      show (sub _ _).isFinite ∧ Near (sub _ _).value _
      rw [sub]
      split
      · next zero =>
        rw [zero, Int.cast_zero, zero_mul] at exact
        rw [← exact]
        exact ⟨rfl, by simp [Near, value, Binary64.zero]⟩
      · rw [← exact] at regular ⊢
        exact ofScaled_close _ _ regular
    | _ => cases hy
  | _ => cases hx

/-- A product of finite numbers is what their exact product is rounded to. -/
theorem exists_mul_eq_nearest {x y : Binary64} (hx : x.isFinite) (hy : y.isFinite) :
    ∃ s num den, 0 < den ∧ x * y = nearest s num den
      ∧ (if s then -1 else 1) * ((num : ℚ) / den) = x.value * y.value := by
  cases x with
  | finite s m q =>
    cases y with
    | finite t n r =>
      refine ⟨s != t, (scaleDown (m * n) 1 (-(q + r))).1, (scaleDown (m * n) 1 (-(q + r))).2,
        scaleDown_pos _ Nat.one_pos _, rfl, ?_⟩
      rw [scaleDown_ratio, neg_neg, Nat.cast_one, div_one, value, value, zpow_add₀ (by norm_num)]
      push_cast
      cases s <;> cases t <;> simp <;> ring
    | _ => cases hy
  | _ => cases hx

/-- A product is close to what it stands for. -/
theorem mul_close {x y : Binary64} (hx : x.isFinite) (hy : y.isFinite)
    (regular : Regular (x.value * y.value)) :
    (x * y).isFinite ∧ Near (x * y).value (x.value * y.value) := by
  obtain ⟨s, num, den, hden, rounds, signed⟩ := exists_mul_eq_nearest hx hy
  rw [rounds]
  exact nearest_close hden signed regular

/-- No product with a number that is not finite is finite. -/
theorem isFinite_of_mul {x y : Binary64} (finite : (x * y).isFinite) : x.isFinite := by
  have finite : (mul x y).isFinite := finite
  cases x with
  | finite => rfl
  | nan => cases finite
  | infinite s =>
    cases y with
    | nan | infinite => cases finite
    | finite t n r =>
      rw [mul] at finite
      split at finite <;> cases finite

/-! ## Integers -/

/-- A finite number reaches an integer when its value does. -/
theorem reaches_iff {x : Binary64} (hx : x.isFinite) (n : Int) :
    x.reaches n ↔ (n : ℚ) ≤ x.value := by
  cases x with
  | finite s m q =>
    have ratio := scaleDown_ratio m 1 (-q)
    have pos : (0 : ℚ) < (scaleDown m 1 (-q)).2 := by
      exact_mod_cast scaleDown_pos m Nat.one_pos (-q)
    rw [neg_neg, Nat.cast_one, div_one] at ratio
    rw [reaches, decide_eq_true_eq, value, ← ratio, ← mul_div_assoc, le_div_iff₀ pos]
    cases s
    · simp only [Bool.false_eq_true, if_false, one_mul]
      exact_mod_cast Iff.rfl
    · simp only [if_true, neg_mul, one_mul]
      exact_mod_cast Iff.rfl
  | _ => cases hx

/-- Zero reaches no positive integer. -/
theorem reaches_zero {n : Int} (positive : 1 ≤ n) : (zero false).reaches n = false := by
  rw [Bool.eq_false_iff, Ne, reaches_iff rfl]
  have : (zero false).value = 0 := by simp [zero, value]
  rw [this, not_le]
  exact_mod_cast positive

/-- What is rounded to an integer is off by at most a half. -/
theorem round?_close {x : Binary64} (hx : x.isFinite) :
    ∃ n : Int, x.round? = some n ∧ |(n : ℚ) - x.value| ≤ 1 / 2 := by
  cases x with
  | finite s m q =>
    have close := halfEven_close (scaleDown m 1 (-q)).1 (scaleDown_pos m Nat.one_pos (-q))
    rw [scaleDown_ratio, neg_neg, Nat.cast_one, div_one] at close
    have rounds : (finite s m q).round? = some (if s
        then -(halfEven (scaleDown m 1 (-q)).1 (scaleDown m 1 (-q)).2 : Int)
        else halfEven (scaleDown m 1 (-q)).1 (scaleDown m 1 (-q)).2) := rfl
    refine ⟨_, rounds, ?_⟩
    generalize halfEven (scaleDown m 1 (-q)).1 (scaleDown m 1 (-q)).2 = size at close
    cases s
    · simpa [value] using close
    · have flip : ((-(size : Int) : Int) : ℚ) - (finite true m q).value = -(size - m * 2 ^ q) := by
        simp [value]
        ring
      rw [if_pos rfl, flip, abs_neg]
      exact close
  | _ => cases hx

/-! ## Sizes -/

/-- A finite number that packs a mantissa has an exponent in the format's range. -/
theorem exponent_le_of_pack {s : Bool} {m : Nat} {q : Int} (packed : (pack s m q).isFinite) :
    q ≤ 971 := by
  unfold pack at packed
  by_cases carry : m = 1 <<< 53
  · simp only [carry, if_true] at packed
    split at packed
    · cases packed
    · omega
  · simp only [carry, if_false] at packed
    split at packed
    · cases packed
    · omega

/-- With the largest exponent of the format, a mantissa packs to a finite number unless it has
    carried. -/
theorem isFinite_pack_last (s : Bool) (m : Nat) : (pack s m 971).isFinite ↔ m ≠ 1 <<< 53 := by
  unfold pack
  by_cases carry : m = 1 <<< 53
  · simp [carry, isFinite]
  · simp only [carry, if_false]
    exact iff_of_true rfl carry

/-- A mantissa has 53 bits, or has just carried. -/
theorem halfEven_le_carry {num den : Nat} (hden : 0 < den) {q : Int}
    (low : floorLog2 num den - 52 ≤ q) :
    halfEven (scaleDown num den q).1 (scaleDown num den q).2 ≤ 2 ^ 53 := by
  have close := halfEven_close (scaleDown num den q).1 (scaleDown_pos num hden q)
  have bound : ((scaleDown num den q).1 : ℚ) / (scaleDown num den q).2 < 2 ^ (53 : ℤ) := by
    rw [scaleDown_ratio]
    calc (num : ℚ) / den * 2 ^ (-q) < 2 ^ (floorLog2 num den + 1) * 2 ^ (-q) :=
          mul_lt_mul_of_pos_right (lt_two_zpow_floorLog2 hden) (by positivity)
      _ = 2 ^ (floorLog2 num den + 1 - q) := by rw [← zpow_add₀ (by norm_num)]; rfl
      _ ≤ 2 ^ (53 : ℤ) := zpow_le_zpow_right₀ one_le_two (by omega)
  have near := (abs_le.1 close).2
  have most : (halfEven (scaleDown num den q).1 (scaleDown num den q).2 : ℚ)
      < 2 ^ (53 : ℤ) + 1 := by linarith
  have most : halfEven (scaleDown num den q).1 (scaleDown num den q).2 < 2 ^ 53 + 1 := by
    exact_mod_cast most
  omega

/-- What is rounded to a finite number is rounded to none beyond the format's largest. -/
theorem abs_value_le_of_isFinite {s : Bool} {num den : Nat} (hden : 0 < den)
    (finite : (nearest s num den).isFinite) :
    |(nearest s num den).value| ≤ 2 ^ (1024 : ℤ) - 2 ^ (971 : ℤ) := by
  have positive : (0 : ℚ) ≤ 2 ^ (1024 : ℤ) - 2 ^ (971 : ℤ) :=
    sub_nonneg.2 (zpow_le_zpow_right₀ one_le_two (by norm_num))
  by_cases hnum : num = 0
  · subst hnum
    simpa [nearest, zero, value] using positive
  rw [nearest, if_neg hnum] at finite ⊢
  simp only at finite ⊢
  have carry := halfEven_le_carry hden (le_max_left (floorLog2 num den - 52) (-1074))
  generalize max (floorLog2 num den - 52) (-1074) = q at finite carry
  generalize halfEven (scaleDown num den q).1 (scaleDown num den q).2 = m at finite carry
  have sign : |(if s then -1 else 1 : ℚ)| = 1 := by cases s <;> simp
  rw [value_pack finite, abs_mul, sign, one_mul, abs_of_nonneg (by positivity)]
  have last := exponent_le_of_pack finite
  have top : (2 : ℚ) ^ (1024 : ℤ) = 2 ^ (53 : ℤ) * 2 ^ (971 : ℤ) := by
    rw [← zpow_add₀ (by norm_num)]
    norm_num
  by_cases whole : m = 2 ^ 53
  · -- The mantissa has carried, so that the exponent is not the last one.
    have before : q ≤ 970 := by
      rcases last.lt_or_eq with lt | rfl
      · omega
      · refine absurd ?_ ((isFinite_pack_last s m).1 finite)
        rw [whole, Nat.shiftLeft_eq, one_mul]
    have half : (2 : ℚ) ^ (971 : ℤ) = 2 * 2 ^ (970 : ℤ) := by
      rw [← zpow_one_add₀ (by norm_num)]
      norm_num
    have unit : (2 : ℚ) ^ q ≤ 2 ^ (970 : ℤ) := zpow_le_zpow_right₀ one_le_two before
    have size : (0 : ℚ) < 2 ^ (970 : ℤ) := by positivity
    generalize (2 : ℚ) ^ (970 : ℤ) = u at half unit size
    generalize (2 : ℚ) ^ q = x at unit
    have carried : (m : ℚ) = 2 ^ (53 : ℤ) := by
      rw [whole]
      norm_cast
    have bits : (2 : ℚ) ≤ 2 ^ (53 : ℤ) := by norm_num
    rw [carried, top, half]
    generalize (2 : ℚ) ^ (53 : ℤ) = c at bits
    have more : 2 * u ≤ c * u := mul_le_mul_of_nonneg_right bits size.le
    calc c * x ≤ c * u := mul_le_mul_of_nonneg_left unit (by linarith)
      _ ≤ c * u + (c * u - 2 * u) := by linarith
      _ = c * (2 * u) - 2 * u := by ring
  · have less : (m : ℚ) ≤ 2 ^ (53 : ℤ) - 1 := by
      have less : m + 1 ≤ 2 ^ 53 := by omega
      have less : ((m + 1 : ℕ) : ℚ) ≤ 2 ^ 53 := by exact_mod_cast less
      push_cast at less
      have same : (2 : ℚ) ^ (53 : ℤ) = 2 ^ 53 := by norm_cast
      rw [same]
      linarith
    calc (m : ℚ) * 2 ^ q ≤ (2 ^ (53 : ℤ) - 1) * 2 ^ (971 : ℤ) :=
          mul_le_mul less (zpow_le_zpow_right₀ one_le_two last) (by positivity)
            (le_trans (Nat.cast_nonneg m) less)
      _ = 2 ^ (1024 : ℤ) - 2 ^ (971 : ℤ) := by rw [top]; ring

/-- What is smaller than a fraction that is rounded to a finite number is rounded to one as well. -/
theorem isFinite_nearest_of_le {s s' : Bool} {num num' den : Nat} (hden : 0 < den)
    (le : num ≤ num') (finite : (nearest s' num' den).isFinite) :
    (nearest s num den).isFinite := by
  by_cases small : (num : ℚ) / den < 2 ^ (1023 : ℤ)
  · refine isFinite_nearest hden (v := (if s then -1 else 1) * ((num : ℚ) / den)) rfl ?_
    rwa [abs_signed rfl]
  -- Both fractions lie between the last two powers of two that the format spans.
  have large : (2 : ℚ) ^ (1023 : ℤ) ≤ num / den := not_lt.1 small
  have positive : (0 : ℚ) < num / den := lt_of_lt_of_le (by positivity) large
  have hnum : num ≠ 0 := by
    rintro rfl
    simp at positive
  have hnum' : num' ≠ 0 := by omega
  have ratio : (num : ℚ) / den ≤ num' / den := by gcongr
  rw [nearest, if_neg hnum'] at finite
  have top : (num' : ℚ) / den < 2 ^ (1024 : ℤ) := by
    have exponent := exponent_le_of_pack finite
    refine lt_of_lt_of_le (lt_two_zpow_floorLog2 hden) (zpow_le_zpow_right₀ one_le_two ?_)
    omega
  have log : ∀ n : Nat, n ≠ 0 → (2 : ℚ) ^ (1023 : ℤ) ≤ n / den → (n : ℚ) / den < 2 ^ (1024 : ℤ) →
      floorLog2 n den = 1023 := by
    intro n hn low high
    have below : floorLog2 n den < 1024 := by
      rw [← zpow_lt_zpow_iff_right₀ (one_lt_two (α := ℚ))]
      exact lt_of_le_of_lt (two_zpow_floorLog2_le hn hden) high
    have above : 1023 < floorLog2 n den + 1 := by
      rw [← zpow_lt_zpow_iff_right₀ (one_lt_two (α := ℚ))]
      exact lt_of_le_of_lt low (lt_two_zpow_floorLog2 hden)
    omega
  rw [log num' hnum' (large.trans ratio) top] at finite
  rw [nearest, if_neg hnum, log num hnum large (lt_of_le_of_lt ratio top)]
  have uncarried := (isFinite_pack_last s' _).1 finite
  refine (isFinite_pack_last s _).2 ?_
  -- The mantissa of the larger one has not carried, nor does that of the smaller one.
  have mono : halfEven num (den <<< 971) ≤ halfEven num' (den <<< 971) := halfEven_mono _ le
  have most : halfEven num' (den <<< 971) ≤ 2 ^ 53 :=
    halfEven_le_carry hden (q := 971) (by rw [log num' hnum' (large.trans ratio) top]; norm_num)
  have uncarried : halfEven num' (den <<< 971) ≠ 1 <<< 53 := uncarried
  show halfEven num (den <<< 971) ≠ 1 <<< 53
  generalize halfEven num (den <<< 971) = m at mono
  generalize halfEven num' (den <<< 971) = m' at mono most uncarried
  rw [Nat.shiftLeft_eq] at uncarried ⊢
  omega

/-- The integer part of a number is not larger than the number. -/
theorem abs_truncate?_le {x : Binary64} {n : Int} (h : x.truncate? = some n) :
    |(n : ℚ)| ≤ |x.value| := by
  cases x with
  | finite s m q =>
    have ratio := scaleDown_ratio m 1 (-q)
    rw [neg_neg, Nat.cast_one, div_one] at ratio
    have size : |(finite s m q).value| = m * 2 ^ q := by
      have sign : |(if s then -1 else 1 : ℚ)| = 1 := by cases s <;> simp
      rw [value, abs_mul, sign, one_mul, abs_of_nonneg (by positivity)]
    rw [size, ← ratio]
    have floor : (((scaleDown m 1 (-q)).1 / (scaleDown m 1 (-q)).2 : ℕ) : ℚ)
        ≤ (scaleDown m 1 (-q)).1 / (scaleDown m 1 (-q)).2 := Nat.cast_div_le
    have truncates : (finite s m q).truncate? = some (if s
        then -(((scaleDown m 1 (-q)).1 / (scaleDown m 1 (-q)).2 : ℕ) : ℤ)
        else ((scaleDown m 1 (-q)).1 / (scaleDown m 1 (-q)).2 : ℕ)) := rfl
    rw [truncates, Option.some.injEq] at h
    generalize (scaleDown m 1 (-q)).1 / (scaleDown m 1 (-q)).2 = k at h floor
    have whole : |(n : ℚ)| = k := by
      rw [← h]
      cases s <;> simp
    rw [whole]
    exact floor
  | _ => cases h

end Binary64

/-! ## Bounds -/

/-- What is not tiny and not huge is in the range of the format. -/
theorem regular_of_bounds {v : ℚ} (large : v = 0 ∨ 1 / 2 ^ 100 ≤ |v|) (small : |v| ≤ 2 ^ 100) :
    Regular v := by
  have least : (2 : ℚ) ^ (-1022 : ℤ) ≤ 1 / 2 ^ 100 := by
    rw [one_div, ← zpow_natCast, ← zpow_neg]
    exact zpow_le_zpow_right₀ one_le_two (by norm_num)
  have most : (2 : ℚ) ^ 100 < 2 ^ (1023 : ℤ) := by
    rw [← zpow_natCast]
    exact zpow_lt_zpow_right₀ one_lt_two (by norm_num)
  exact ⟨lt_of_le_of_lt small most, large.imp_right least.trans⟩

/-- What is close to a bounded value is off by at most a part of the bound. -/
theorem Near.off {x v b : ℚ} (near : Near x v) (bound : |v| ≤ b) : |x - v| ≤ b / 2 ^ 53 := by
  calc |x - v| ≤ |v| * 2 ^ (-53 : ℤ) := near
    _ ≤ b * 2 ^ (-53 : ℤ) := mul_le_mul_of_nonneg_right bound (by positivity)
    _ = b / 2 ^ 53 := by rw [zpow_neg, div_eq_mul_inv]; rfl

/-- What is close to a value is neither below its half nor above its double. -/
theorem Near.size {x v : ℚ} (near : Near x v) : |v| / 2 ≤ |x| ∧ |x| ≤ 2 * |v| := by
  have off := near.off le_rfl
  have below := abs_sub_abs_le_abs_sub v x
  have above := abs_sub_abs_le_abs_sub x v
  rw [abs_sub_comm v x] at below
  have size : |v| / 2 ^ 53 ≤ |v| / 2 := by
    rw [div_le_div_iff₀ (by positivity) (by positivity)]
    exact mul_le_mul_of_nonneg_left (by norm_num) (abs_nonneg v)
  constructor <;> linarith [abs_nonneg v]

/-! ## Seconds and milliseconds -/

theorem thousand_eq : thousand = .finite false 8796093022208000 (-43) := by decide +kernel

theorem thousand_value : thousand.value = 1000 := by
  rw [thousand_eq, Binary64.value]
  norm_num

/-- What is below the middle between the largest finite number and the next power of two is in the
    format's range. -/
theorem inBinary64Range_of_abs_lt {n : Int}
    (less : |(n : ℚ)| < 2 ^ (1024 : ℤ) - 2 ^ (970 : ℤ)) : inBinary64Range n := by
  have power : ∀ k : ℕ, (2 : ℚ) ^ (k : ℤ) = ((1 <<< k : ℕ) : ℚ) := by
    intro k
    rw [Nat.shiftLeft_eq, one_mul, zpow_natCast, Nat.cast_pow, Nat.cast_ofNat]
  have top := power 1024
  have gap := power 970
  rw [Nat.cast_ofNat] at top gap
  rw [top, gap, ← Int.cast_abs, ← Nat.cast_natAbs, lt_sub_iff_add_lt] at less
  have less : n.natAbs + 1 <<< 970 < 1 <<< 1024 := by exact_mod_cast less
  exact decide_eq_true (Nat.lt_sub_of_add_lt less)

/-- The number is not beyond the largest finite one of the format. -/
def Binary64.InFormat (x : Binary64) : Prop := |x.value| ≤ 2 ^ (1024 : ℤ) - 2 ^ (971 : ℤ)

namespace Binary64.InFormat

/-- What is not finite has no value to be beyond it. -/
theorem of_value_eq_zero {x : Binary64} (h : x.value = 0) : x.InFormat := by
  rw [InFormat, h, abs_zero]
  exact sub_nonneg.2 (zpow_le_zpow_right₀ one_le_two (by norm_num))

theorem nan : Binary64.nan.InFormat := of_value_eq_zero rfl

theorem infinite (negative : Bool) : (Binary64.infinite negative).InFormat := of_value_eq_zero rfl

theorem zero (negative : Bool) : (Binary64.zero negative).InFormat :=
  of_value_eq_zero (by simp [Binary64.zero, value])

/-- What is rounded is in the format. -/
theorem nearest (s : Bool) (num : Nat) {den : Nat} (hden : 0 < den) :
    (Binary64.nearest s num den).InFormat := by
  by_cases finite : (Binary64.nearest s num den).isFinite = true
  · exact abs_value_le_of_isFinite hden finite
  · cases rounded : Binary64.nearest s num den with
    | finite s m q =>
      rw [rounded] at finite
      exact absurd rfl finite
    | nan => exact nan
    | infinite negative => exact infinite negative

/-- Its integer part is in the format's range. -/
theorem inRange {x : Binary64} (format : x.InFormat) {n : Int} (truncates : x.truncate? = some n) :
    inBinary64Range n :=
  inBinary64Range_of_abs_lt <| ((abs_truncate?_le truncates).trans format).trans_lt <|
    sub_lt_sub_left (zpow_lt_zpow_right₀ one_lt_two (by norm_num)) _

end Binary64.InFormat

/-- What the system clock shows is in the format's range. -/
theorem inBinary64Range_of_systemMillis {wall now : Int} (shown : systemMillis wall = .ok now) :
    inBinary64Range now := by
  rw [systemMillis, clockSeconds] at shown
  by_cases finite : (seconds wall).isFinite = true
  · rw [if_pos finite] at shown
    simp only [Bind.bind, Except.bind] at shown
    cases whole : (seconds wall * thousand).truncate? with
    | none =>
      rw [whole] at shown
      cases shown
    | some ms =>
      rw [whole] at shown
      cases shown
      obtain ⟨s, num, den, hden, rounds, -⟩ :=
        Binary64.exists_mul_eq_nearest finite (y := thousand) (by rw [thousand_eq]; rfl)
      rw [rounds] at whole
      exact (Binary64.InFormat.nearest s num hden).inRange whole
  · rw [if_neg finite] at shown
    cases shown

/-- Where the monotonic clock can be read it could be read at every earlier instant since its start.
    -/
theorem MonotonicReadable.of_le {t t' : Int} (readable : MonotonicReadable t') (start : 0 ≤ t)
    (le : t ≤ t') : MonotonicReadable t := by
  have finite := monotonicReadable_iff.1 readable
  exact monotonicReadable_iff.2
    (Binary64.isFinite_nearest_of_le (by norm_num) (by omega) finite)

/-- Seconds are close to a thousandth of the milliseconds. -/
theorem seconds_close {ms : Int} (small : |(ms : ℚ)| ≤ 2 ^ 100) :
    (seconds ms).isFinite ∧ Near (seconds ms).value (ms / 1000) := by
  have thousandth : |(ms : ℚ) / 1000| = |(ms : ℚ)| / 1000 := by rw [abs_div]; norm_num
  have regular : Regular ((ms : ℚ) / (1000 : ℕ)) := by
    rw [Nat.cast_ofNat]
    refine regular_of_bounds ?_ (by rw [thousandth]; linarith [abs_nonneg (ms : ℚ)])
    by_cases zero : ms = 0
    · left
      rw [zero]
      norm_num
    · right
      have one : (1 : ℚ) ≤ |(ms : ℚ)| := by exact_mod_cast Int.one_le_abs zero
      rw [thousandth, div_le_div_iff₀ (by positivity) (by norm_num)]
      linarith [(by norm_num : (1000 : ℚ) ≤ 2 ^ 100)]
  have close := Binary64.ofRatio_close ms (d := 1000) (by decide) regular
  rw [Nat.cast_ofNat] at close
  exact close

/-- A thousand times a number is close to that. -/
theorem mul_thousand_close {x : Binary64} (hx : x.isFinite)
    (large : x.value = 0 ∨ 1 / 2 ^ 100 ≤ |x.value|) (small : |x.value| ≤ 2 ^ 90) :
    (x * thousand).isFinite ∧ Near (x * thousand).value (x.value * 1000) := by
  have size : |x.value * 1000| = |x.value| * 1000 := by rw [abs_mul]; norm_num
  have close := Binary64.mul_close hx (y := thousand) (by rw [thousand_eq]; rfl)
  rw [thousand_value] at close
  refine close (regular_of_bounds ?_ ?_)
  · rcases large with zero | large
    · left
      rw [zero, zero_mul]
    · right
      rw [size]
      linarith [abs_nonneg x.value]
  · rw [size]
    linarith [(by norm_num : (2 : ℚ) ^ 90 * 1000 ≤ 2 ^ 100)]

/-- A wait takes as long as it is to, unless that is for many thousand years. -/
theorem pauseMillis?_eq {ms : Int} (small : |ms| ≤ 2 ^ 50) : pauseMillis? ms = some ms := by
  by_cases zero : ms = 0
  · rw [zero]
    decide +kernel
  have one : (1 : ℚ) ≤ |(ms : ℚ)| := by exact_mod_cast Int.one_le_abs zero
  have most : |(ms : ℚ)| ≤ 2 ^ 50 := by exact_mod_cast small
  have thousandth : |(ms : ℚ) / 1000| = |(ms : ℚ)| / 1000 := by rw [abs_div]; norm_num
  obtain ⟨finite, near⟩ := seconds_close (most.trans (by norm_num))
  have off := abs_le.1 (near.off thousandth.le)
  have size := near.size
  rw [thousandth] at size
  obtain ⟨finite', near'⟩ := mul_thousand_close finite
    (.inr (by linarith [(by norm_num : (1 : ℚ) / 2 ^ 100 ≤ 1 / 1000 / 2)]))
    (by linarith [(by norm_num : (2 : ℚ) * (2 ^ 50 / 1000) ≤ 2 ^ 90)])
  have product : |(seconds ms).value * 1000| ≤ 2 * |(ms : ℚ)| := by
    rw [abs_mul, abs_of_pos (by norm_num : (0 : ℚ) < 1000)]
    linarith [size.2]
  have off' := abs_le.1 (near'.off product)
  obtain ⟨n, rounded, close⟩ := Binary64.round?_close finite'
  have close := abs_le.1 close
  -- All the roundings together are off by less than one.
  have bits : |(ms : ℚ)| / 2 ^ 53 ≤ 1 / 8 := by
    rw [div_le_div_iff₀ (by positivity) (by positivity)]
    linarith [(by norm_num : (2 : ℚ) ^ 50 * 8 = 2 ^ 53)]
  have same : n = ms := by
    have above : (n : ℚ) < ms + 1 := by linarith [off.2, off'.2, close.2]
    have below : (ms : ℚ) < n + 1 := by linarith [off.1, off'.1, close.1]
    have above : n < ms + 1 := by exact_mod_cast above
    have below : ms < n + 1 := by exact_mod_cast below
    omega
  rw [pauseMillis?, rounded, same]

/-- A wait for some time takes some. -/
theorem pauseMillis?_pos {ms pause : Int} (positive : 1 ≤ ms)
    (slept : pauseMillis? ms = some pause) : 1 ≤ pause := by
  by_cases small : ms ≤ 2 ^ 50
  · rw [pauseMillis?_eq (abs_le.2 ⟨by omega, small⟩), Option.some.injEq] at slept
    omega
  · -- All that is rounded stays above its half, and there is much to be halved.
    have large : (2 : ℚ) ^ 50 < ms := by exact_mod_cast not_le.1 small
    have least : (2 : ℚ) ^ (-1022 : ℤ) ≤ 1 := zpow_le_one_of_nonpos₀ one_le_two (by norm_num)
    have product : (seconds ms * thousand).isFinite := by
      rw [pauseMillis?] at slept
      cases h : seconds ms * thousand with
      | finite => rfl
      | _ =>
        rw [h] at slept
        cases slept
    have finite := Binary64.isFinite_of_mul product
    have near : Near (seconds ms).value ((ms : ℚ) / (1000 : ℕ)) := by
      refine Binary64.near_nearest (by norm_num) ?_ (.inr ?_) finite
      · rw [← mul_div_assoc, Binary64.sign_mul_natAbs]
      · rw [abs_of_pos (by positivity)]
        refine least.trans ?_
        push_cast
        linarith
    have off := abs_le.1 (near.off (b := ms / 1000) (by rw [abs_of_pos (by positivity)]; norm_num))
    have half : (ms : ℚ) / 2000 ≤ (seconds ms).value := by
      push_cast at off
      linarith [off.1]
    obtain ⟨s, num, den, hden, rounds, signed⟩ :=
      Binary64.exists_mul_eq_nearest finite (y := thousand) (by rw [thousand_eq]; rfl)
    rw [thousand_value] at signed
    have size : |(seconds ms).value * 1000| = (seconds ms).value * 1000 :=
      abs_of_pos (by linarith)
    rw [rounds] at product
    have near' := Binary64.near_nearest hden signed (.inr (least.trans (by rw [size]; linarith)))
      product
    rw [← rounds] at near' product
    have off' := abs_le.1 (near'.off size.le)
    obtain ⟨n, rounded, close⟩ := Binary64.round?_close product
    have close := abs_le.1 close
    rw [pauseMillis?, rounded, Option.some.injEq] at slept
    subst slept
    have : (1 : ℚ) ≤ n := by linarith [off'.1, close.1]
    exact_mod_cast this

/-- Between two readings that are a millisecond apart or more there lies, by the clock, as much time
    as has passed, up to half a millisecond. -/
theorem millisBetween_close {earlier later : Int} (first : |earlier| ≤ 2 ^ 43)
    (second : |later| ≤ 2 ^ 43) (apart : earlier < later) :
    (millisBetween (seconds earlier) (seconds later)).isFinite
      ∧ |(millisBetween (seconds earlier) (seconds later)).value - (later - earlier)| ≤ 1 / 2 := by
  have first : |(earlier : ℚ)| ≤ 2 ^ 43 := by exact_mod_cast first
  have second : |(later : ℚ)| ≤ 2 ^ 43 := by exact_mod_cast second
  have apart : (earlier : ℚ) + 1 ≤ later := by exact_mod_cast apart
  have thousandth : ∀ x : ℚ, |x| ≤ 2 ^ 43 → |x / 1000| ≤ 2 ^ 43 / 1000 := by
    intro x hx
    rw [abs_div, abs_of_pos (by norm_num : (0 : ℚ) < 1000)]
    linarith
  obtain ⟨finite, near⟩ := seconds_close (first.trans (by norm_num))
  obtain ⟨finite', near'⟩ := seconds_close (second.trans (by norm_num))
  have off := abs_le.1 (near.off (thousandth _ first))
  have off' := abs_le.1 (near'.off (thousandth _ second))
  have bound := abs_le.1 first
  have bound' := abs_le.1 second
  generalize hv : (seconds later).value - (seconds earlier).value = v
  -- The difference of the readings is positive, and not huge.
  have low : ((later : ℚ) - earlier) / 1000 - 1 / 2 ^ 18 ≤ v := by linarith [off.2, off'.1]
  have high : v ≤ ((later : ℚ) - earlier) / 1000 + 1 / 2 ^ 18 := by linarith [off.1, off'.2]
  have pos : 1 / 2 ^ 12 ≤ v := by linarith
  have size : |v| = v := abs_of_pos (lt_of_lt_of_le (by norm_num) pos)
  have most : |v| ≤ 2 ^ 45 / 1000 := by
    rw [size]
    linarith
  obtain ⟨finite₂, near₂⟩ := Binary64.sub_close finite' finite (by
    rw [hv]
    refine regular_of_bounds (.inr ?_) (most.trans (by norm_num))
    rw [size]
    exact le_trans (by norm_num) pos)
  rw [hv] at near₂
  have off₂ := abs_le.1 (near₂.off most)
  have size₂ := near₂.size
  obtain ⟨finite₃, near₃⟩ := mul_thousand_close finite₂
    (.inr (le_trans (by norm_num) ((div_le_div_of_nonneg_right pos (by norm_num)).trans
      (size ▸ size₂.1)))) (size₂.2.trans (by linarith))
  have product : |((seconds later) - (seconds earlier)).value * 1000| ≤ 2 ^ 46 := by
    rw [abs_mul, abs_of_pos (by norm_num : (0 : ℚ) < 1000)]
    linarith [size₂.2]
  have off₃ := abs_le.1 (near₃.off product)
  refine ⟨finite₃, abs_le.2 ?_⟩
  rw [millisBetween]
  constructor <;> linarith [off₂.1, off₂.2, off₃.1, off₃.2]

end Turnstile

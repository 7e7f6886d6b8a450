set_option autoImplicit false

/-! # Binary64 numbers

The numbers of the IEEE binary64 format as exact values: `finite s m q` is `±m · 2^q`. Every result
that need not be exact goes through `Binary64.nearest`, which rounds a quotient of natural numbers
to the nearest representable one and a half-way case to the even one, so all arithmetic here is
arithmetic on natural numbers and integers.

Comparison with an integer and truncation are exact: no integer is rounded on the way. -/

namespace Turnstile

/-- A binary64 number. `finite s m q` stands for `m · 2^q`, negated when `s` holds. -/
inductive Binary64 where
  | nan
  | infinite (negative : Bool)
  | finite (negative : Bool) (mantissa : Nat) (exponent : Int)
deriving DecidableEq, Repr, Inhabited

/-! ## Rounding -/

/-- The integer nearest to `num / den`; of two equally near ones the even one. -/
def halfEven (num den : Nat) : Nat :=
  let floor := num / den
  let rest := 2 * (num % den)
  if rest < den ∨ (rest = den ∧ floor % 2 = 0) then floor else floor + 1

/-- The fraction `num / den` divided by `2^q`. -/
def scaleDown (num den : Nat) (q : Int) : Nat × Nat :=
  if 0 ≤ q then (num, den <<< q.toNat) else (num <<< (-q).toNat, den)

/-- The `e` with `2^e ≤ num / den < 2^(e+1)`, for a positive fraction. -/
def floorLog2 (num den : Nat) : Int :=
  let guess : Int := (Nat.log2 num : Int) - Nat.log2 den
  let (n, d) := scaleDown num den guess
  if d ≤ n then guess else guess - 1

/-- A mantissa that rounding has carried to 54 bits gives up its last bit, and an exponent above
    the format's range gives infinity. -/
def Binary64.pack (negative : Bool) (mantissa : Nat) (exponent : Int) : Binary64 :=
  let (m, q) := if mantissa = 1 <<< 53 then (1 <<< 52, exponent + 1) else (mantissa, exponent)
  if 971 < q then .infinite negative else .finite negative m q

/-- The zero of the given sign. -/
def Binary64.zero (negative : Bool) : Binary64 := .finite negative 0 (-1074)

/-- The binary64 number nearest to `±num / den`: 53 bits of mantissa, none below `2^-1074`. -/
def Binary64.nearest (negative : Bool) (num den : Nat) : Binary64 :=
  if num = 0 then .zero negative
  else
    let q := max (floorLog2 num den - 52) (-1074)
    let (n, d) := scaleDown num den q
    .pack negative (halfEven n d) q

/-- The number nearest to the fraction `n / d`. -/
def Binary64.ofRatio (n : Int) (d : Nat) : Binary64 := .nearest (n < 0) n.natAbs d

/-- The number nearest to an integer. -/
def Binary64.ofInt (n : Int) : Binary64 := .ofRatio n 1

/-- The number nearest to `n · 2^q`. -/
def Binary64.ofScaled (n q : Int) : Binary64 :=
  let (num, den) := scaleDown n.natAbs 1 (-q)
  .nearest (n < 0) num den

/-- An integer is in the format's range when its nearest number is finite. The first one beyond is
    half way between the largest finite number and `2^1024`, as that half goes up. -/
def inBinary64Range (n : Int) : Bool := n.natAbs < 1 <<< 1024 - 1 <<< 970

/-! ## Arithmetic -/

namespace Binary64

def isFinite : Binary64 → Bool
  | .finite .. => true
  | _ => false

/-- The value of a finite number, in units of `2^q` for an exponent `q` no larger than its own. -/
def inUnits (negative : Bool) (mantissa : Nat) (exponent q : Int) : Int :=
  let size : Int := (mantissa <<< (exponent - q).toNat : Nat)
  if negative then -size else size

/-- The difference, rounded. Equal numbers differ by `+0`. -/
def sub : Binary64 → Binary64 → Binary64
  | .nan, _ => .nan
  | _, .nan => .nan
  | .infinite s, .infinite t => if s = t then .nan else .infinite s
  | .infinite s, .finite .. => .infinite s
  | .finite .., .infinite t => .infinite !t
  | .finite s m q, .finite t n r =>
    let unit := min q r
    match inUnits s m q unit - inUnits t n r unit with
    | 0 => .zero (s && !t)
    | diff => .ofScaled diff unit

/-- The product, rounded. -/
def mul : Binary64 → Binary64 → Binary64
  | .nan, _ => .nan
  | _, .nan => .nan
  | .infinite s, .infinite t => .infinite (s != t)
  | .infinite s, .finite t n _ => if n = 0 then .nan else .infinite (s != t)
  | .finite s m _, .infinite t => if m = 0 then .nan else .infinite (s != t)
  | .finite s m q, .finite t n r =>
    let (num, den) := scaleDown (m * n) 1 (-(q + r))
    .nearest (s != t) num den

instance : Sub Binary64 := ⟨sub⟩
instance : Mul Binary64 := ⟨mul⟩

/-! ## Integers -/

/-- The integer part of a finite number, towards zero. -/
def truncate? : Binary64 → Option Int
  | .finite s m q =>
    let (num, den) := scaleDown m 1 (-q)
    let size : Int := (num / den : Nat)
    some (if s then -size else size)
  | _ => none

/-- The integer nearest to a finite number; of two equally near ones the even one. -/
def round? : Binary64 → Option Int
  | .finite s m q =>
    let (num, den) := scaleDown m 1 (-q)
    let size : Int := halfEven num den
    some (if s then -size else size)
  | _ => none

/-- `n < x`, exactly. -/
def exceeds (x : Binary64) (n : Int) : Bool :=
  match x with
  | .nan => false
  | .infinite s => !s
  | .finite s m q =>
    let (num, den) := scaleDown m 1 (-q)
    n * den < (if s then -(num : Int) else num)

/-- `n ≤ x`, exactly. -/
def reaches (x : Binary64) (n : Int) : Bool :=
  match x with
  | .nan => false
  | .infinite s => !s
  | .finite s m q =>
    let (num, den) := scaleDown m 1 (-q)
    n * den ≤ (if s then -(num : Int) else num)

/-- A zero of either sign. -/
def isZero : Binary64 → Bool
  | .finite _ m _ => m = 0
  | _ => false

/-- The difference of a finite number with itself is zero. -/
theorem sub_self_of_isFinite (x : Binary64) (h : x.isFinite) : x - x = .zero false := by
  cases x with
  | nan => simp [isFinite] at h
  | infinite => simp [isFinite] at h
  | finite s m q =>
    show sub _ _ = _
    simp only [sub, Int.sub_self]
    cases s <;> rfl

end Binary64

end Turnstile

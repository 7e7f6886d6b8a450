import Turnstile.Binary64.Basic

set_option autoImplicit false

/-! # Decimal text of binary64 numbers

`Binary64.ofDecimal` is the number nearest to `digits · 10^e`. `Decimal.shortest` is the other way:
the fewest decimal digits that read back as the number, and of several such decimals the one nearest
to it. `Binary64.fixed` writes a number with a given count of places, correctly rounded from its
exact value, a half going to the even neighbour. -/

namespace Turnstile

/-! ## Reading -/

/-- The count of decimal digits of `n`, one for zero. -/
def digitCount (n : Nat) : Nat := (Nat.toDigits 10 n).length

/-- The fraction `num / den` divided by `10^k`. -/
def scaleDownTen (num den : Nat) (k : Int) : Nat × Nat :=
  if 0 ≤ k then (num, den * Nat.pow 10 k.toNat) else (num * Nat.pow 10 (-k).toNat, den)

/-- The number nearest to `±digits · 10^exponent`. What is written with a leading digit above the
    310th place is beyond the range, and what stands wholly below the 400th place after the point
    is nearest to zero, so that no larger power of ten is ever built. -/
def Binary64.ofDecimal (negative : Bool) (digits : Nat) (exponent : Int) : Binary64 :=
  let top := exponent + digitCount digits
  if digits = 0 ∨ top < -400 then .zero negative
  else if 310 < top then .infinite negative
  else
    let (num, den) := scaleDownTen digits 1 (-exponent)
    .nearest negative num den

/-! ## The shortest decimal -/

/-- The decimal `digits · 10^exponent`. -/
structure Decimal where
  digits : Nat
  exponent : Int
deriving DecidableEq, Repr, Inhabited

/-- The `k` with `10^(k-1) ≤ num / den < 10^k`, for a positive fraction. -/
def decimalTop (num den : Nat) : Int :=
  if den ≤ num then digitCount (num / den)
  else 1 - (digitCount ((den - 1) / num) : Int)

/-- Of the decimals of `n` digits the one that reads back as `num / den`; of two such the nearer,
    and of two equally near ones the even one. -/
def Decimal.withDigits? (num den : Nat) (n : Nat) : Option Decimal :=
  let unit := decimalTop num den - n
  let (scaledNum, scaledDen) := scaleDownTen num den unit
  let low := scaledNum / scaledDen
  let value := Binary64.nearest false num den
  let readsBack (digits : Nat) : Bool := Binary64.ofDecimal false digits unit = value
  match readsBack low, readsBack (low + 1) with
  | true, true => some ⟨halfEven scaledNum scaledDen, unit⟩
  | true, false => some ⟨low, unit⟩
  | false, true => some ⟨low + 1, unit⟩
  | false, false => none

/-- The decimal with the fewest digits that reads back as the positive number `num / den`; seventeen
    digits always do. -/
def Decimal.shortest (num den : Nat) : Decimal :=
  match ((List.range 18).drop 1).findSome? (Decimal.withDigits? num den) with
  | some d => d
  | none => ⟨num / den, 0⟩

/-- Where a shortest decimal is written with a point and where with an exponent: positionally from
    `lowest` up to, and not with, `highest` as the exponent of its first digit. -/
structure PointLayout where
  lowest : Int
  highest : Int

namespace Decimal

/-- The digits, without the zeros at their end. -/
def significant (d : Decimal) : List Char :=
  ((Nat.toDigits 10 d.digits).reverse.dropWhile (· = '0')).reverse

/-- The exponent of the first digit. -/
def leading (d : Decimal) : Int := d.exponent + digitCount d.digits - 1

/-- Digits with a point, and at least one digit on each side of it. -/
def positional (cs : List Char) (leading : Int) : List Char :=
  if leading < 0 then '0' :: '.' :: List.replicate (-leading - 1).toNat '0' ++ cs
  else
    let whole := (leading + 1).toNat
    let padded := cs ++ List.replicate (whole - cs.length) '0'
    match padded.drop whole with
    | [] => padded ++ ['.', '0']
    | fraction => padded.take whole ++ '.' :: fraction

/-- One digit, the others after a point, and a signed exponent of at least two digits. -/
def scientific (cs : List Char) (leading : Int) : List Char :=
  let exponent := (Nat.toDigits 10 leading.natAbs).leftpad 2 '0'
  let mantissa := match cs with
    | first :: second :: rest => first :: '.' :: second :: rest
    | short => short
  mantissa ++ 'e' :: (if leading < 0 then '-' else '+') :: exponent

/-- The text of a decimal in a layout. -/
def render (layout : PointLayout) (d : Decimal) : List Char :=
  if layout.lowest ≤ d.leading ∧ d.leading < layout.highest then positional d.significant d.leading
  else scientific d.significant d.leading

end Decimal

/-- The shortest decimal text of a finite number; zero is `0.0`, with its sign. -/
def Binary64.shortest (layout : PointLayout) (negative : Bool) (mantissa : Nat) (exponent : Int) :
    List Char :=
  let (num, den) := scaleDown mantissa 1 (-exponent)
  let size := if mantissa = 0 then ['0', '.', '0'] else (Decimal.shortest num den).render layout
  if negative then '-' :: size else size

/-! ## Fixed places -/

/-- The text of a finite number with `places` digits after the point. A negative number keeps its
    sign when all digits are zero. -/
def Binary64.fixed (places : Nat) : Binary64 → String
  | .nan => "nan"
  | .infinite s => if s then "-inf" else "inf"
  | .finite s m q =>
    let (num, den) := scaleDown (m * Nat.pow 10 places) 1 (-q)
    let digits := (Nat.toDigits 10 (halfEven num den)).leftpad (places + 1) '0'
    let whole := digits.length - places
    String.ofList ((if s then ['-'] else []) ++ digits.take whole ++ '.' :: digits.drop whole)

end Turnstile

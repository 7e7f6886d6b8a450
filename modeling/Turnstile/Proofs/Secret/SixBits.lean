import Turnstile.Secret.Hash

set_option autoImplicit false

/-! # Six bits a character

What bytes are written as reads back as them (`decode_encode`). How many characters that takes goes
by the number of bytes alone, and the other way round, so that the text of a salt has the length
that its reader cuts off. No character stands for a dollar sign. -/

namespace Turnstile

namespace Bcrypt

/-! ## Characters -/

theorem digitValue?_digit (n : Nat) : digitValue? (digit n) = some (n % 64) := by
  have each : ∀ k < 64, digitValue? (alphabet.getD k '.') = some k := by decide +kernel
  exact each (n % 64) (Nat.mod_lt n (by decide))

theorem digit_ne_dollar (n : Nat) : digit n ≠ '$' := by
  intro dollar
  have value := digitValue?_digit n
  have none : digitValue? '$' = none := by decide +kernel
  rw [dollar, none] at value
  cases value

/-! ## Bytes -/

/-- A byte of which six bits are in one character and two in the next. -/
theorem toUInt8_first (a : UInt8) {k : Nat} (low : k < 16) :
    (a.toNat / 4 % 64 * 4 + (a.toNat % 4 * 16 + k) % 64 / 16).toUInt8 = a := by
  have small := a.toNat_lt
  apply UInt8.toNat_inj.1
  rw [Nat.toUInt8_eq, UInt8.toNat_ofNat']
  omega

/-- A byte of which four bits are in one character and four in the next. -/
theorem toUInt8_second (b : UInt8) {j k : Nat} (low : k < 4) :
    ((j * 16 + b.toNat / 16) % 64 % 16 * 16 + (b.toNat % 16 * 4 + k) % 64 / 4).toUInt8 = b := by
  have small := b.toNat_lt
  apply UInt8.toNat_inj.1
  rw [Nat.toUInt8_eq, UInt8.toNat_ofNat']
  omega

/-- A byte of which two bits are in one character and six in the next. -/
theorem toUInt8_third (c : UInt8) {j : Nat} :
    ((j * 4 + c.toNat / 64) % 64 % 4 * 64 + c.toNat % 64 % 64).toUInt8 = c := by
  have small := c.toNat_lt
  apply UInt8.toNat_inj.1
  rw [Nat.toUInt8_eq, UInt8.toNat_ofNat']
  omega

/-- **What is written reads back.** -/
theorem decode_encode (bytes : List UInt8) : decode (encode bytes) = some bytes := by
  fun_induction encode bytes with
  | case1 => rfl
  | case2 a =>
    have first := toUInt8_first a (k := 0) (by decide)
    have spare : a.toNat % 4 * 16 % 64 % 16 = 0 := by omega
    simp [decode, digitValue?_digit, spare] at first ⊢
    exact first
  | case3 a b =>
    have first := toUInt8_first a (k := b.toNat / 16) (by have := b.toNat_lt; omega)
    have second := toUInt8_second b (j := a.toNat % 4) (k := 0) (by decide)
    have spare : b.toNat % 16 * 4 % 64 % 4 = 0 := by omega
    simp [decode, digitValue?_digit, spare] at first second ⊢
    exact ⟨first, second⟩
  | case4 a b c rest ih =>
    have first := toUInt8_first a (k := b.toNat / 16) (by have := b.toNat_lt; omega)
    have second := toUInt8_second b (j := a.toNat % 4) (k := c.toNat / 64)
      (by have := c.toNat_lt; omega)
    have third := toUInt8_third c (j := b.toNat % 16)
    simp [decode, digitValue?_digit, ih] at first second third ⊢
    exact ⟨first, second, third⟩

theorem length_encode (bytes : List UInt8) :
    (encode bytes).length = (bytes.length * 8 + 5) / 6 := by
  fun_induction encode bytes with
  | case1 => rfl
  | case2 => simp
  | case3 => simp
  | case4 a b c rest ih =>
    simp only [List.length_cons, ih]
    omega

theorem length_of_decode {cs : List Char} {bytes : List UInt8} (h : decode cs = some bytes) :
    bytes.length = cs.length * 6 / 8 := by
  fun_induction decode cs generalizing bytes with
  | case1 =>
    cases h
    rfl
  | case2 => cases h
  | case3 p q =>
    simp only [Option.bind_eq_bind, Option.bind_eq_some_iff, Option.ite_none_right_eq_some,
      Option.some.injEq] at h
    obtain ⟨_, -, _, -, -, rfl⟩ := h
    simp
  | case4 p q r =>
    simp only [Option.bind_eq_bind, Option.bind_eq_some_iff, Option.ite_none_right_eq_some,
      Option.some.injEq] at h
    obtain ⟨_, -, _, -, _, -, -, rfl⟩ := h
    simp
  | case5 p q r s rest ih =>
    simp only [Option.bind_eq_bind, Option.bind_eq_some_iff, Option.some.injEq] at h
    obtain ⟨_, -, _, -, _, -, _, -, more, later, rfl⟩ := h
    simp only [List.length_cons, ih later]
    omega

theorem dollar_notMem_encode (bytes : List UInt8) : '$' ∉ encode bytes := by
  fun_induction encode bytes with
  | case1 => simp
  | case2 => simp [(digit_ne_dollar _).symm]
  | case3 => simp [(digit_ne_dollar _).symm]
  | case4 a b c rest ih => simp [(digit_ne_dollar _).symm, ih]

end Bcrypt

end Turnstile

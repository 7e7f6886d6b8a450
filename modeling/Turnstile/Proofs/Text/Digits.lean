import Turnstile.Json.Token
import Turnstile.Lock

set_option autoImplicit false

/-! # Digits read back

The digits of a number, read back, give that number again: decimal digits as the reader of JSON text
takes them (`natOfDigits_toDigits`), and the hexadecimal ones of a lock's token, so that different
numbers have different tokens (`tokenDigits_injective`). -/

namespace Turnstile

/-! ## Decimal digits -/

theorem natOfDigits_toDigits (n : Nat) : Json.natOfDigits (Nat.toDigits 10 n) = n :=
  Nat.ofDigitChars_ten_toDigits

/-- Decimal digits start with a zero only where it stands alone. -/
theorem toDigits_eq_cons (n : Nat) :
    Nat.toDigits 10 n = ['0'] ∨ ∃ c cs, Nat.toDigits 10 n = c :: cs ∧ c ≠ '0' := by
  induction n using Nat.base_induction 10 (by decide) with
  | single m hm =>
    rw [Nat.toDigits_of_lt_base hm]
    by_cases h : m = 0
    · subst h
      exact .inl rfl
    · exact .inr ⟨_, [], rfl, by simpa using h⟩
  | digit m k hk hm ih =>
    rw [← Nat.toDigits_append_toDigits (by decide) hm hk]
    rcases ih with ih | ⟨c, cs, ih, hc⟩
    · -- Only zero is written as a lone zero, and the leading digits are those of a positive number.
      have hz : m = 0 := by
        rw [← natOfDigits_toDigits m, ih]
        rfl
      omega
    · exact .inr ⟨c, _, by rw [ih, List.cons_append], hc⟩

theorem isDigit_of_mem_toDigits {n : Nat} {c : Char} (h : c ∈ Nat.toDigits 10 n) : c.isDigit :=
  Nat.isDigit_of_mem_toDigits (by decide) (by decide) h

/-! ## Tokens -/

/-- The number that hexadecimal digits write. -/
def natOfHexDigits (digits : List Char) : Nat :=
  digits.foldl (fun n c => 16 * n + (hexValue? c).getD 0) 0

theorem hexValue?_digitChar : ∀ k < 16, hexValue? k.digitChar = some k := by decide

theorem natOfHexDigits_concat (digits : List Char) (c : Char) :
    natOfHexDigits (digits ++ [c]) = 16 * natOfHexDigits digits + (hexValue? c).getD 0 := by
  simp [natOfHexDigits]

theorem natOfHexDigits_toDigits (n : Nat) : natOfHexDigits (Nat.toDigits 16 n) = n := by
  induction n using Nat.base_induction 16 (by decide) with
  | single m hm =>
    rw [Nat.toDigits_of_lt_base hm]
    simp [natOfHexDigits, hexValue?_digitChar m hm]
  | digit m k hk hm ih =>
    rw [← Nat.toDigits_append_toDigits (by decide) hm hk, Nat.toDigits_of_lt_base hk,
      natOfHexDigits_concat, ih, hexValue?_digitChar k hk, Option.getD_some]

/-- Hexadecimal digits are the characters of numbers below sixteen. -/
theorem exists_digitChar_of_mem_toDigits {n : Nat} {c : Char} (h : c ∈ Nat.toDigits 16 n) :
    ∃ k < 16, c = k.digitChar := by
  induction n using Nat.base_induction 16 (by decide) with
  | single m hm =>
    rw [Nat.toDigits_of_lt_base hm, List.mem_singleton] at h
    exact ⟨m, hm, h⟩
  | digit m k hk hm ih =>
    rw [← Nat.toDigits_append_toDigits (by decide) hm hk, Nat.toDigits_of_lt_base hk,
      List.mem_append, List.mem_singleton] at h
    rcases h with h | h
    · exact ih h
    · exact ⟨k, hk, h⟩

/-- Leading zeros do not count. -/
theorem natOfHexDigits_leftpad (width : Nat) (digits : List Char) :
    natOfHexDigits (digits.leftpad width '0') = natOfHexDigits digits := by
  have hz : hexValue? '0' = some 0 := by decide
  have h : ∀ count, (List.replicate count '0').foldl
      (fun n c => 16 * n + (hexValue? c).getD 0) 0 = 0 := by
    intro count
    induction count with
    | zero => rfl
    | succ count ih => rw [List.replicate_succ, List.foldl_cons, hz]; exact ih
  rw [List.leftpad, natOfHexDigits, List.foldl_append, h]
  rfl

theorem tokenDigits_injective {m n : Nat} (h : tokenDigits m = tokenDigits n) : m = n := by
  have h' := congrArg natOfHexDigits h
  simpa only [tokenDigits, natOfHexDigits_leftpad, natOfHexDigits_toDigits] using h'

theorem exists_digitChar_of_mem_tokenDigits {n : Nat} {c : Char} (h : c ∈ tokenDigits n) :
    ∃ k < 16, c = k.digitChar := by
  rw [tokenDigits, List.leftpad, List.mem_append] at h
  rcases h with h | h
  · exact ⟨0, by decide, List.eq_of_mem_replicate h⟩
  · exact exists_digitChar_of_mem_toDigits h

/-- The token that is drawn as the `n`-th. -/
def tokenText (n : Nat) : String := String.ofList (tokenDigits n)

theorem tokenText_injective {m n : Nat} (h : tokenText m = tokenText n) : m = n := by
  refine tokenDigits_injective ?_
  simpa only [tokenText, String.toList_ofList] using congrArg String.toList h

end Turnstile

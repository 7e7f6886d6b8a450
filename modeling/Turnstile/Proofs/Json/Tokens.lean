import Turnstile.Json.Writer
import Turnstile.Proofs.Text.Digits

set_option autoImplicit false

/-! # Written scalars are single tokens

The text of a token in the store's style, cut into tokens, is that token, whatever comes after it: of
a string (`Json.next_writeString`), whose characters are escaped one by one and may take two escapes
each, and of an integer (`Json.next_writeInt`), as long as it has few enough digits and nothing that
would continue it comes next. -/

namespace Turnstile

namespace Json

/-! ## One token at a time -/

theorem Token.all_of_next {cs after : List Char} {t : Token} (h : Token.next cs = some (t, after)) :
    Token.all cs = t :: Token.all after := by
  rw [Token.all]
  split
  · simp_all
  · next u rest hu =>
    rw [h] at hu
    simp only [Option.some.injEq, Prod.mk.injEq] at hu
    rw [hu.1, hu.2]

theorem Token.all_of_next_eq_none {cs : List Char} (h : Token.next cs = none) :
    Token.all cs = [] := by
  rw [Token.all]
  split
  · rfl
  · simp_all

/-- A blank before a token does not count. -/
theorem Token.all_space (cs : List Char) : Token.all (' ' :: cs) = Token.all cs := by
  have h : Token.next (' ' :: cs) = Token.next cs := by
    rw [Token.next, Token.next, List.dropWhile_cons_of_pos (by decide)]
  cases hn : Token.next cs with
  | none => rw [Token.all_of_next_eq_none hn, Token.all_of_next_eq_none (h.trans hn)]
  | some found => rw [Token.all_of_next hn, Token.all_of_next (h.trans hn)]

/-! ## Integers -/

/-- The integer before a text ends where the text begins: neither a digit comes next, nor a point or
    a mark of exponent. -/
def endsInteger : List Char → Bool
  | [] => true
  | c :: _ => !c.isDigit && c != '.' && c != 'e' && c != 'E'

section Integers

variable {rest : List Char} (ends : endsInteger rest)
include ends

theorem scanFraction_of_endsInteger : scanFraction rest = ([], rest) := by
  cases rest with
  | nil => rfl
  | cons c cs =>
    have h : c ≠ '.' := by
      rintro rfl
      simp [endsInteger] at ends
    simp [scanFraction, h]

theorem scanExponent_of_endsInteger : scanExponent rest = (none, rest) := by
  cases rest with
  | nil => rfl
  | cons c cs =>
    have h : ¬(c = 'e' ∨ c = 'E') := by
      rintro (rfl | rfl) <;> simp [endsInteger] at ends
    simp [scanExponent, h]

theorem takeWhile_of_endsInteger {ds : List Char} (digits : ∀ d ∈ ds, d.isDigit) :
    (ds ++ rest).takeWhile Char.isDigit = ds ∧ (ds ++ rest).dropWhile Char.isDigit = rest := by
  rw [List.takeWhile_append_of_pos digits, List.dropWhile_append_of_pos digits]
  cases rest with
  | nil => simp
  | cons c cs =>
    have hc : c.isDigit = false := by
      simp only [endsInteger, Bool.and_eq_true, Bool.not_eq_true'] at ends
      exact ends.1.1.1
    rw [List.takeWhile_cons_of_neg (by simp [hc]), List.dropWhile_cons_of_neg (by simp [hc]),
      List.append_nil]
    exact ⟨rfl, rfl⟩

theorem scanWhole_toDigits (n : Nat) :
    scanWhole (Nat.toDigits 10 n ++ rest) = some (Nat.toDigits 10 n, rest) := by
  rcases toDigits_eq_cons n with h | ⟨d, ds, h, hz⟩
  · rw [h]
    rfl
  · have digits : ∀ x ∈ d :: ds, x.isDigit := fun x hx => isDigit_of_mem_toDigits (h ▸ hx)
    have further := takeWhile_of_endsInteger ends fun x hx => digits x (List.mem_cons_of_mem d hx)
    rw [h, List.cons_append, scanWhole]
    · rw [if_pos (digits d List.mem_cons_self), further.1, further.2]
    · exact hz

theorem scanNumber_toDigits (negative : Bool) {n : Nat} (hn : digitCount n ≤ maxIntegerDigits) :
    scanNumber negative (Nat.toDigits 10 n ++ rest)
      = some (.scalar (.int (if negative then -(n : Int) else n)), rest) := by
  have hlen : ¬ maxIntegerDigits < (Nat.toDigits 10 n).length := Nat.not_lt.2 hn
  simp only [scanNumber, scanWhole_toDigits ends, Option.map_some, scanFraction_of_endsInteger ends,
    scanExponent_of_endsInteger ends, numberToken, natOfDigits_toDigits, if_neg hlen]

end Integers

theorem first_of_isDigit {d : Char} (hd : d.isDigit) (rest : List Char) :
    Token.first (d :: rest) = scanNumber false (d :: rest) := by
  have ne : ∀ c : Char, c.isDigit = false → d ≠ c := by
    intro c hc h
    rw [h, hc] at hd
    exact absurd hd (by decide)
  have hl := ne '[' rfl
  have hL := ne ']' rfl
  have ho := ne '\x7b' rfl
  have hO := ne '\x7d' rfl
  have hcomma := ne ',' rfl
  have hcolon := ne ':' rfl
  have hquote := ne '"' rfl
  have hn := ne 'n' rfl
  have ht := ne 't' rfl
  have hf := ne 'f' rfl
  have hN := ne 'N' rfl
  have hI := ne 'I' rfl
  have hm := ne '-' rfl
  rw [Token.first] <;> simp_all

theorem first_minus_of_isDigit {d : Char} (hd : d.isDigit) (rest : List Char) :
    Token.first ('-' :: d :: rest) = scanNumber true (d :: rest) := by
  have hI : d ≠ 'I' := by
    rintro rfl
    exact absurd hd (by decide)
  rw [Token.first]
  simp [hI]

theorem isBlank_of_isDigit {d : Char} (hd : d.isDigit) : isBlank d = false := by
  have ne : ∀ c : Char, c.isDigit = false → d ≠ c := by
    intro c hc h
    rw [h, hc] at hd
    exact absurd hd (by decide)
  simp [isBlank, ne ' ' rfl, ne '\t' rfl, ne '\n' rfl, ne '\r' rfl]

/-- An integer that is short enough is one token. -/
theorem next_writeInt {n : Int} (hn : digitCount n.natAbs ≤ maxIntegerDigits) {rest : List Char}
    (ends : endsInteger rest) :
    Token.next (writeInt n ++ rest) = some (.scalar (.int n), rest) := by
  obtain ⟨d, ds, hds⟩ : ∃ d ds, Nat.toDigits 10 n.natAbs = d :: ds :=
    List.exists_cons_of_ne_nil Nat.toDigits_ne_nil
  have hd : d.isDigit := isDigit_of_mem_toDigits (hds ▸ List.mem_cons_self)
  by_cases neg : n < 0
  · have hfirst : Token.first ('-' :: (Nat.toDigits 10 n.natAbs ++ rest))
        = some (.scalar (.int n), rest) := by
      have value : (if true then -(n.natAbs : Int) else n.natAbs) = n := by
        rw [if_pos rfl]
        omega
      rw [hds, List.cons_append, first_minus_of_isDigit hd, ← List.cons_append, ← hds,
        scanNumber_toDigits ends true hn, value]
    rw [writeInt, if_pos neg, List.cons_append, Token.next]
    simp only [List.dropWhile_cons_of_neg (p := isBlank) (a := '-') (by decide), hfirst,
      Option.getD_some]
  · have hfirst : Token.first (Nat.toDigits 10 n.natAbs ++ rest)
        = some (.scalar (.int n), rest) := by
      have value : (if false then -(n.natAbs : Int) else n.natAbs) = n := by
        rw [if_neg Bool.false_ne_true]
        omega
      rw [hds, List.cons_append, first_of_isDigit hd, ← List.cons_append, ← hds,
        scanNumber_toDigits ends false hn, value]
    rw [hds, List.cons_append] at hfirst
    rw [writeInt, if_neg neg, hds, List.cons_append, Token.next,
      List.dropWhile_cons_of_neg (by simp [isBlank_of_isDigit hd])]
    simp only [hfirst, Option.getD_some]

/-! ## Strings -/

/-- The four hexadecimal digits of an escape write its number. -/
theorem hexUnit?_leftpad {n : Nat} (hn : n < 0x10000) :
    ∃ a b c d, (Nat.toDigits 16 n).leftpad 4 '0' = [a, b, c, d] ∧ hexUnit? a b c d = some n := by
  have short : (Nat.toDigits 16 n).length ≤ 4 :=
    (Nat.length_toDigits_le_iff (by decide) (by decide)).2 hn
  have four : ((Nat.toDigits 16 n).leftpad 4 '0').length = 4 := by
    rw [List.length_leftpad]
    omega
  obtain ⟨a, b, c, d, digits⟩ : ∃ a b c d, (Nat.toDigits 16 n).leftpad 4 '0' = [a, b, c, d] := by
    match (Nat.toDigits 16 n).leftpad 4 '0', four with
    | [a, b, c, d], _ => exact ⟨a, b, c, d, rfl⟩
  have value : ∀ x ∈ [a, b, c, d], ∃ k, hexValue? x = some k := by
    intro x hx
    rw [← digits, List.leftpad, List.mem_append] at hx
    rcases hx with hx | hx
    · exact ⟨0, by rw [List.eq_of_mem_replicate hx]; decide⟩
    · obtain ⟨k, hk, rfl⟩ := exists_digitChar_of_mem_toDigits hx
      exact ⟨k, hexValue?_digitChar k hk⟩
  obtain ⟨i, hi⟩ := value a (by simp)
  obtain ⟨j, hj⟩ := value b (by simp)
  obtain ⟨k, hk⟩ := value c (by simp)
  obtain ⟨l, hl⟩ := value d (by simp)
  have number : natOfHexDigits [a, b, c, d] = n := by
    rw [← digits, natOfHexDigits_leftpad, natOfHexDigits_toDigits]
  refine ⟨a, b, c, d, digits, ?_⟩
  simp only [natOfHexDigits, List.foldl_cons, List.foldl_nil, hi, hj, hk, hl,
    Option.getD_some] at number
  simp only [hexUnit?, hi, hj, hk, hl, Option.pure_def, Option.bind_eq_bind, Option.bind_some,
    Option.some.injEq]
  omega

/-- A number in front of those that a string gives. -/
def withUnits (ns : List Nat) (found : Option (List Nat × List Char)) :
    Option (List Nat × List Char) :=
  found.map fun p => (ns ++ p.1, p.2)

theorem scanString_unitEscape {n : Nat} (hn : n < 0x10000) (cs : List Char) :
    scanString (unitEscape n ++ cs) = withUnits [n] (scanString cs) := by
  obtain ⟨a, b, c, d, digits, number⟩ := hexUnit?_leftpad hn
  rw [unitEscape, digits]
  simp only [List.cons_append, List.nil_append, scanString, number, withUnits]
  cases scanString cs <;> rfl

/-- The code numbers that a string in ASCII gives for a character: its own, or those of two halves. -/
def unitsOf (c : Char) : List Nat :=
  if c.toNat < 0x10000 then [c.toNat]
  else [0xD800 + (c.toNat - 0x10000) / 0x400, 0xDC00 + (c.toNat - 0x10000) % 0x400]

theorem toNat_lt (c : Char) : c.toNat < 0x110000 := by
  have valid := c.valid
  simp only [UInt32.isValidChar, Nat.isValidChar] at valid
  simp only [Char.toNat]
  omega

/-- No character is half of a pair. -/
theorem not_half (c : Char) : isHighHalf c.toNat = false ∧ isLowHalf c.toNat = false := by
  have valid := c.valid
  simp only [UInt32.isValidChar, Nat.isValidChar] at valid
  simp only [isHighHalf, isLowHalf, Char.toNat, Bool.and_eq_false_iff, decide_eq_false_iff_not]
  omega

theorem scanString_codeEscape (c : Char) (cs : List Char) :
    scanString (codeEscape c ++ cs) = withUnits (unitsOf c) (scanString cs) := by
  by_cases small : c.toNat < 0x10000
  · rw [codeEscape, if_pos small, unitsOf, if_pos small, scanString_unitEscape small]
  · have bound := toNat_lt c
    have high : 0xD800 + (c.toNat - 0x10000) / 0x400 < 0x10000 := by omega
    have low : 0xDC00 + (c.toNat - 0x10000) % 0x400 < 0x10000 := by omega
    rw [codeEscape, if_neg small, unitsOf, if_neg small, List.append_assoc,
      scanString_unitEscape high, scanString_unitEscape low]
    cases scanString cs <;> rfl

/-- A character that stands for itself. -/
theorem scanString_self {c : Char} (quote : c ≠ '"') (backslash : c ≠ '\\')
    (printed : ¬ c.toNat < 0x20) (cs : List Char) :
    scanString (c :: cs) = withUnits [c.toNat] (scanString cs) := by
  rw [scanString]
  · rw [if_neg printed]
    cases scanString cs <;> rfl
  · exact quote
  · intro _ _ _ _ _ h
    exact absurd h backslash
  · intro _ _ h
    exact absurd h backslash

/-- A written character gives its code numbers. -/
theorem scanString_writeChar (c : Char) (cs : List Char) :
    scanString (writeChar true c ++ cs) = withUnits (unitsOf c) (scanString cs) := by
  fun_cases writeChar true c
  case case8 => exact scanString_codeEscape c cs
  case case9 quote backslash _ _ _ _ _ plain =>
    simp only [Bool.true_and, Bool.or_eq_true, decide_eq_true_eq, not_or] at plain
    have small : c.toNat < 0x10000 := by omega
    rw [unitsOf, if_pos small, List.singleton_append]
    exact scanString_self quote backslash plain.1 cs
  all_goals
    simp only [List.cons_append, List.nil_append]
    cases h : scanString cs <;> simp [scanString, shortEscape?, h, withUnits, unitsOf]

/-- The code numbers of a written string are those of its characters. -/
theorem scanString_flatMap_writeChar (cs rest : List Char) :
    scanString (cs.flatMap (writeChar true) ++ '"' :: rest) = some (cs.flatMap unitsOf, rest) := by
  induction cs with
  | nil => simp [scanString]
  | cons c cs ih =>
    rw [List.flatMap_cons, List.append_assoc, scanString_writeChar, ih]
    rfl

theorem joinHalves_cons {n : Nat} (h : isHighHalf n = false) (ns : List Nat) :
    joinHalves (n :: ns) = charOfCode n :: joinHalves ns := by
  cases ns with
  | nil => rfl
  | cons m ns => simp [joinHalves, h]

/-- The code numbers of a character join to the character. -/
theorem joinHalves_unitsOf (c : Char) (ns : List Nat) :
    joinHalves (unitsOf c ++ ns) = c :: joinHalves ns := by
  by_cases small : c.toNat < 0x10000
  · have half := not_half c
    rw [unitsOf, if_pos small, List.singleton_append, joinHalves_cons half.1, charOfCode, half.1,
      half.2]
    simp
  · have bound := toNat_lt c
    have high : isHighHalf (0xD800 + (c.toNat - 0x10000) / 0x400) = true := by
      simp only [isHighHalf, Bool.and_eq_true, decide_eq_true_eq]
      omega
    have low : isLowHalf (0xDC00 + (c.toNat - 0x10000) % 0x400) = true := by
      simp only [isLowHalf, Bool.and_eq_true, decide_eq_true_eq]
      omega
    have number : 0x10000 + (0xD800 + (c.toNat - 0x10000) / 0x400 - 0xD800) * 0x400
        + (0xDC00 + (c.toNat - 0x10000) % 0x400 - 0xDC00) = c.toNat := by omega
    rw [unitsOf, if_neg small, List.cons_append, List.singleton_append, joinHalves, high, low,
      number]
    simp

theorem joinHalves_flatMap_unitsOf (cs : List Char) : joinHalves (cs.flatMap unitsOf) = cs := by
  induction cs with
  | nil => rfl
  | cons c cs ih => rw [List.flatMap_cons, joinHalves_unitsOf, ih]

/-- A string is one token. -/
theorem next_writeString (s : String) (rest : List Char) :
    Token.next (writeString true s ++ rest) = some (.text s, rest) := by
  have scanned := scanString_flatMap_writeChar s.toList rest
  have first : Token.first ('"' :: (s.toList.flatMap (writeChar true) ++ '"' :: rest))
      = some (.text s, rest) := by
    simp only [Token.first, scanned, Option.map_some, joinHalves_flatMap_unitsOf,
      String.ofList_toList]
  rw [writeString, List.append_assoc, List.cons_append, List.singleton_append, Token.next]
  simp only [List.dropWhile_cons_of_neg (p := isBlank) (a := '"') (by decide), first,
    Option.getD_some]

end Json

end Turnstile

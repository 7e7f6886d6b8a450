import Turnstile.Binary64.Decimal
import Turnstile.Json.Basic
import Turnstile.Text.Hex

set_option autoImplicit false

/-! # Tokens of JSON text

`Token.all` cuts a text into brackets, separators, strings and scalars, leaving out the blanks
between them. It never fails: what is no token becomes `invalid` and ends the list, so that whoever
reads the tokens refuses the text only when it gets there. The literals `NaN`, `Infinity` and
`-Infinity` are scalars. -/

namespace Turnstile

namespace Json

/-- A token of JSON text. `oversized` is an integer literal with more digits than are read. -/
inductive Token where
  | listOpen
  | listClose
  | objectOpen
  | objectClose
  | comma
  | colon
  | text (s : String)
  | scalar (value : Json)
  | oversized
  | invalid
deriving Inhabited, Repr

/-- The blanks between tokens. -/
def isBlank (c : Char) : Bool := c = ' ' || c = '\t' || c = '\n' || c = '\r'

/-! ## Strings -/

/-- The number of four hexadecimal digits. -/
def hexUnit? (a b c d : Char) : Option Nat := do
  return (((← hexValue? a) * 16 + (← hexValue? b)) * 16 + (← hexValue? c)) * 16 + (← hexValue? d)

/-- The character that a short escape stands for. -/
def shortEscape? : Char → Option Char
  | '"' => some '"'
  | '\\' => some '\\'
  | '/' => some '/'
  | 'b' => some '\x08'
  | 'f' => some '\x0c'
  | 'n' => some '\n'
  | 'r' => some '\r'
  | 't' => some '\t'
  | _ => none

/-- The code numbers of a string up to its closing quote, and the text after it. A `\u` escape gives
    its own number, which may be half of a pair; characters below the space must be escaped. -/
def scanString : List Char → Option (List Nat × List Char)
  | [] => none
  | '"' :: rest => some ([], rest)
  | '\\' :: 'u' :: a :: b :: c :: d :: rest =>
    match hexUnit? a b c d, scanString rest with
    | some n, some (ns, after) => some (n :: ns, after)
    | _, _ => none
  | '\\' :: e :: rest =>
    match shortEscape? e, scanString rest with
    | some c, some (ns, after) => some (c.toNat :: ns, after)
    | _, _ => none
  | c :: rest =>
    if c.toNat < 0x20 then none
    else match scanString rest with
      | some (ns, after) => some (c.toNat :: ns, after)
      | none => none

def isHighHalf (n : Nat) : Bool := 0xD800 ≤ n && n < 0xDC00
def isLowHalf (n : Nat) : Bool := 0xDC00 ≤ n && n < 0xE000

/-- The character of a code number. A half without its partner is no character and becomes
    U+FFFD. -/
def charOfCode (n : Nat) : Char :=
  if isHighHalf n || isLowHalf n then '\uFFFD' else Char.ofNat n

/-- The characters of code numbers: a high half and the low half after it are one character. -/
def joinHalves : List Nat → List Char
  | [] => []
  | [n] => [charOfCode n]
  | h :: l :: rest =>
    if isHighHalf h && isLowHalf l then
      Char.ofNat (0x10000 + (h - 0xD800) * 0x400 + (l - 0xDC00)) :: joinHalves rest
    else charOfCode h :: joinHalves (l :: rest)

/-! ## Numbers -/

/-- An integer literal of more digits is not read. -/
def maxIntegerDigits : Nat := 4300

/-- The number that decimal digits write. -/
def natOfDigits (digits : List Char) : Nat :=
  digits.foldl (fun n c => 10 * n + (c.toNat - '0'.toNat)) 0

/-- The digits after a point, when there are any. -/
def scanFraction : List Char → List Char × List Char
  | '.' :: rest =>
    match rest.takeWhile Char.isDigit with
    | [] => ([], '.' :: rest)
    | digits => (digits, rest.dropWhile Char.isDigit)
  | cs => ([], cs)

/-- Whether a minus sign comes first, and the text after an optional sign. -/
def scanSign : List Char → Bool × List Char
  | '-' :: rest => (true, rest)
  | '+' :: rest => (false, rest)
  | cs => (false, cs)

/-- The number after a mark of exponent, when there is one. -/
def scanExponent : List Char → Option Int × List Char
  | [] => (none, [])
  | mark :: rest =>
    let signed := scanSign rest
    let digits := signed.2.takeWhile Char.isDigit
    if (mark = 'e' ∨ mark = 'E') ∧ digits ≠ [] then
      let size : Int := natOfDigits digits
      (some (if signed.1 then -size else size), signed.2.dropWhile Char.isDigit)
    else (none, mark :: rest)

/-- The integer part of a number: a lone zero, or digits that do not start with one. -/
def scanWhole : List Char → Option (List Char × List Char)
  | '0' :: rest => some (['0'], rest)
  | c :: rest =>
    if c.isDigit then some (c :: rest.takeWhile Char.isDigit, rest.dropWhile Char.isDigit) else none
  | [] => none

/-- The token of a number: without fraction and exponent it is an integer. -/
def numberToken (negative : Bool) (whole fraction : List Char) (exponent : Option Int) : Token :=
  match fraction, exponent with
  | [], none =>
    let size : Int := natOfDigits whole
    if maxIntegerDigits < whole.length then .oversized
    else .scalar (.int (if negative then -size else size))
  | _, _ =>
    let power := exponent.getD 0 - fraction.length
    .scalar (.double (.ofDecimal negative (natOfDigits (whole ++ fraction)) power))

/-- A number after its sign. -/
def scanNumber (negative : Bool) (cs : List Char) : Option (Token × List Char) :=
  (scanWhole cs).map fun (whole, afterWhole) =>
    let fraction := scanFraction afterWhole
    let exponent := scanExponent fraction.2
    (numberToken negative whole fraction.1 exponent.1, exponent.2)

/-! ## All tokens -/

/-- The token at the head of a text that starts with no blank, and the text after it. -/
def Token.first : List Char → Option (Token × List Char)
  | '[' :: rest => some (.listOpen, rest)
  | ']' :: rest => some (.listClose, rest)
  | '{' :: rest => some (.objectOpen, rest)
  | '}' :: rest => some (.objectClose, rest)
  | ',' :: rest => some (.comma, rest)
  | ':' :: rest => some (.colon, rest)
  | '"' :: rest =>
    (scanString rest).map fun (ns, after) => (.text (String.ofList (joinHalves ns)), after)
  | 'n' :: 'u' :: 'l' :: 'l' :: rest => some (.scalar .null, rest)
  | 't' :: 'r' :: 'u' :: 'e' :: rest => some (.scalar (.bool true), rest)
  | 'f' :: 'a' :: 'l' :: 's' :: 'e' :: rest => some (.scalar (.bool false), rest)
  | 'N' :: 'a' :: 'N' :: rest => some (.scalar (.double .nan), rest)
  | 'I' :: 'n' :: 'f' :: 'i' :: 'n' :: 'i' :: 't' :: 'y' :: rest =>
    some (.scalar (.double (.infinite false)), rest)
  | '-' :: 'I' :: 'n' :: 'f' :: 'i' :: 'n' :: 'i' :: 't' :: 'y' :: rest =>
    some (.scalar (.double (.infinite true)), rest)
  | '-' :: rest => scanNumber true rest
  | cs => scanNumber false cs

/-! Every token takes at least one character, so cutting a text comes to its end. -/

theorem scanString_length_lt {cs after : List Char} {ns : List Nat}
    (h : scanString cs = some (ns, after)) : after.length < cs.length := by
  fun_induction scanString cs generalizing ns after with
  | case1 => simp at h
  | case2 => simp_all
  | case3 a b c d rest n ms tail hs hn ih =>
    have := ih hs
    simp at h
    simp only [List.length_cons, ← h.2]; omega
  | case4 => simp at h
  | case5 e rest _ c ms tail hs he ih =>
    have := ih hs
    simp at h
    simp only [List.length_cons, ← h.2]; omega
  | case6 => simp at h
  | case7 => simp at h
  | case8 c rest _ _ _ _ ms tail hs ih =>
    have := ih hs
    simp at h
    simp only [List.length_cons, ← h.2]; omega
  | case9 => simp at h

theorem length_dropWhile_le (p : Char → Bool) (cs : List Char) :
    (cs.dropWhile p).length ≤ cs.length :=
  (List.dropWhile_sublist p).length_le

theorem scanWhole_length_lt {cs digits after : List Char}
    (h : scanWhole cs = some (digits, after)) : after.length < cs.length := by
  revert h
  fun_cases scanWhole cs with
  | case1 rest => simp_all
  | case2 c rest hc hd =>
    intro h
    have := length_dropWhile_le Char.isDigit rest
    simp at h
    simp only [List.length_cons, ← h.2]; omega
  | case3 => simp
  | case4 => simp

theorem scanFraction_length_le (cs : List Char) : (scanFraction cs).2.length ≤ cs.length := by
  fun_cases scanFraction cs with
  | case1 => simp
  | case2 rest h =>
    have := length_dropWhile_le Char.isDigit rest
    simp only [List.length_cons]; omega
  | case3 => simp

theorem scanSign_length_le (cs : List Char) : (scanSign cs).2.length ≤ cs.length := by
  fun_cases scanSign cs <;> simp

theorem scanExponent_length_le (cs : List Char) : (scanExponent cs).2.length ≤ cs.length := by
  fun_cases scanExponent cs with
  | case1 => simp
  | case2 mark rest signed digits h size =>
    have := length_dropWhile_le Char.isDigit signed.2
    have : signed.2.length ≤ rest.length := scanSign_length_le rest
    simp only [List.length_cons]; omega
  | case3 => simp

theorem scanNumber_length_lt {negative : Bool} {cs after : List Char} {t : Token}
    (h : scanNumber negative cs = some (t, after)) : after.length < cs.length := by
  obtain ⟨⟨whole, afterWhole⟩, hw, heq⟩ := Option.map_eq_some_iff.mp h
  have := scanWhole_length_lt hw
  have := scanFraction_length_le afterWhole
  have := scanExponent_length_le (scanFraction afterWhole).2
  simp at heq
  rw [← heq.2]
  omega

theorem Token.first_length_lt {cs after : List Char} {t : Token}
    (h : Token.first cs = some (t, after)) : after.length < cs.length := by
  revert h
  fun_cases Token.first cs with
  | case7 rest =>
    intro h
    obtain ⟨⟨ns, tail⟩, hs, heq⟩ := Option.map_eq_some_iff.mp h
    have := scanString_length_lt hs
    simp at heq
    simp only [List.length_cons, ← heq.2]; omega
  | case14 rest =>
    intro h
    have := scanNumber_length_lt h
    simp only [List.length_cons]; omega
  | case15 => exact fun h => scanNumber_length_lt h
  | _ => intro h; simp at h; simp [← h.2]; try omega

/-- The token at the head of a text, after any blanks, and the text after it. -/
def Token.next (cs : List Char) : Option (Token × List Char) :=
  match cs.dropWhile isBlank with
  | [] => none
  | c :: rest => some ((Token.first (c :: rest)).getD (.invalid, []))

theorem Token.next_length_lt {cs after : List Char} {t : Token}
    (h : Token.next cs = some (t, after)) : after.length < cs.length := by
  have := length_dropWhile_le isBlank cs
  unfold Token.next at h
  split at h
  · simp at h
  · next c rest hb =>
    rw [hb, List.length_cons] at this
    cases hf : Token.first (c :: rest) with
    | none =>
      simp [hf] at h
      rw [h.2, List.length_nil]; omega
    | some found =>
      simp [hf] at h
      have := Token.first_length_lt (h ▸ hf)
      rw [List.length_cons] at this; omega

/-- The tokens of a text. -/
def Token.all (cs : List Char) : List Token :=
  match h : Token.next cs with
  | none => []
  | some (t, after) =>
    have := Token.next_length_lt h
    t :: Token.all after
termination_by cs.length

end Json

end Turnstile

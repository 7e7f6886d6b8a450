import Turnstile.Text.Blank

set_option autoImplicit false

/-! # Integers in text

Integers as people and programs write them: after an optional sign, digits with single underscores
between them. What counts as a digit is up to the reader: the ten of ASCII, or those of any script,
which Unicode keeps in rows of ten. -/

namespace Turnstile

/-- The zeros of the scripts of Unicode 14; the other nine digits follow each. -/
def zeros : List Nat :=
  [0x30, 0x660, 0x6F0, 0x7C0, 0x966, 0x9E6, 0xA66, 0xAE6, 0xB66, 0xBE6, 0xC66, 0xCE6, 0xD66,
   0xDE6, 0xE50, 0xED0, 0xF20, 0x1040, 0x1090, 0x17E0, 0x1810, 0x1946, 0x19D0, 0x1A80, 0x1A90,
   0x1B50, 0x1BB0, 0x1C40, 0x1C50, 0xA620, 0xA8D0, 0xA900, 0xA9D0, 0xA9F0, 0xAA50, 0xABF0,
   0xFF10, 0x104A0, 0x10D30, 0x11066, 0x110F0, 0x11136, 0x111D0, 0x112F0, 0x11450, 0x114D0,
   0x11650, 0x116C0, 0x11730, 0x118E0, 0x11950, 0x11C50, 0x11D50, 0x11DA0, 0x16A60, 0x16AC0,
   0x16B50, 0x1D7CE, 0x1D7D8, 0x1D7E2, 0x1D7EC, 0x1D7F6, 0x1E140, 0x1E2F0, 0x1E950, 0x1FBF0]

/-- The value of a digit of any script. -/
def scriptDigit? (c : Char) : Option Nat :=
  (zeros.find? fun z => z ≤ c.toNat && c.toNat < z + 10).map (c.toNat - ·)

/-- The value of a digit of ASCII. -/
def asciiDigit? (c : Char) : Option Nat :=
  if c.isDigit then some (c.toNat - '0'.toNat) else none

/-- The digits of a number, of which single underscores stand between some. -/
def groupedDigits? (digit? : Char → Option Nat) : List Char → Option (List Nat)
  | [] => none
  | [c] => (digit? c).map ([·])
  | c :: '_' :: rest => do return (← digit? c) :: (← groupedDigits? digit? rest)
  | c :: rest => do return (← digit? c) :: (← groupedDigits? digit? rest)

/-- The number that digits write. -/
def natOfDigitValues (digits : List Nat) : Nat := digits.foldl (fun n d => 10 * n + d) 0

/-- Whether a minus sign comes first, and the text after an optional sign. -/
def splitSign : List Char → Bool × List Char
  | '-' :: rest => (true, rest)
  | '+' :: rest => (false, rest)
  | cs => (false, cs)

/-- An integer of at most `maxDigits` digits of any script; white space at its ends does not count.
    -/
def scriptInteger? (maxDigits : Nat) (cs : List Char) : Option Int := do
  let (negative, rest) := splitSign (trimBy whiteSpace.contains cs)
  let digits ← groupedDigits? scriptDigit? rest
  if maxDigits < digits.length then none
  else
    let size : Int := natOfDigitValues digits
    some (if negative then -size else size)

end Turnstile

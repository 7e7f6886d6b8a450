import Turnstile.Text.Blank
import Turnstile.Text.Cut
import Turnstile.Text.Integer

set_option autoImplicit false

/-! # Numerals of settings

Integers as they stand in settings. A plain numeral is an optional minus sign and digits of ASCII,
no more of these than `maxNumeral` and no zero in front of others. Any other text is cleaned and
then has to be one: of blanks around it, of its plus sign, of leading zeros with any underscores
among them, of a fraction of zeros and of underscores that stand alone between other characters. -/

namespace Turnstile

/-- Why a text is no numeral. -/
inductive NumeralError where
  | malformed
  | tooLong
deriving DecidableEq, Repr

namespace Numeral

/-- The most digits that a numeral may have. -/
def maxNumeral : Nat := 4300

/-! ## Cleaning -/

/-- A numeral begins with a digit or a minus sign. -/
def begins (c : Char) : Bool := c.isDigit || c = '-'

/-- What is left after leading zeros, of which `last` is the last character. A point keeps the
    character before it, and where nothing else follows that one is the numeral. -/
def afterZeros (last : Char) : List Char → Option (List Char)
  | [] => some [last]
  | c :: rest =>
    if c = '0' || c = '_' then afterZeros c rest
    else if c = '.' then some (last :: c :: rest)
    else if begins c then some (c :: rest)
    else none

/-- A numeral without its leading zeros. -/
def withoutLeadingZeros? : List Char → Option (List Char)
  | [] => none
  | c :: rest =>
    if c = '0' then afterZeros c rest
    else if begins c then some (c :: rest)
    else none

/-- A numeral without a fraction that consists of zeros. -/
def withoutZeroFraction (cs : List Char) : List Char :=
  match cutAt '.' cs with
  | (whole, some fraction) => if fraction ≠ [] ∧ fraction.all (· = '0') then whole else cs
  | (_, none) => cs

/-- A numeral without its underscores, each of which has to stand between other characters. -/
def withoutUnderscores? (cs : List Char) : Option (List Char) :=
  let groups := cs.splitOn '_'
  if groups.all (· ≠ []) then some groups.flatten else none

/-- A text cleaned. A minus sign is set aside meanwhile, and none comes after a plus sign. -/
def clean? (s : String) : Option (List Char) := do
  let cs := trimBy whiteSpace.contains s.toList
  let (sign, cs) ← match cs with
    | '+' :: '-' :: _ => none
    | '+' :: rest => some ([], rest)
    | '-' :: rest => some (['-'], rest)
    | cs => some ([], cs)
  withoutUnderscores? (sign ++ withoutZeroFraction (← withoutLeadingZeros? cs))

/-! ## Reading -/

/-- Whether a minus sign comes first, and the text after it. -/
def splitMinus : List Char → Bool × List Char
  | '-' :: rest => (true, rest)
  | cs => (false, cs)

/-- The integer that a plain numeral writes. A zero in front stands alone, and too many digits are
    refused before it is looked at what follows them. -/
def plain (cs : List Char) : Except NumeralError Int :=
  let (negative, digits) := splitMinus cs
  let run := digits.takeWhile Char.isDigit
  if run = [] || (run.head? = some '0' && run ≠ ['0']) then .error .malformed
  else if maxNumeral < run.length then .error .tooLong
  else if run ≠ digits then .error .malformed
  else
    let size : Int := natOfDigitValues (digits.filterMap asciiDigit?)
    .ok (if negative then -size else size)

/-- The integer that a text stands for once it is cleaned. -/
def cleaned? (s : String) : Option Int := do
  let cs ← clean? s
  (plain cs).toOption

end Numeral

/-- The integer that a text stands for. Digits are too many only where the text begins with them as
    it stands; a text that is too long once it is cleaned is malformed. -/
def integerOfNumeral (s : String) : Except NumeralError Int :=
  match Numeral.plain s.toList with
  | .error .malformed =>
    match Numeral.cleaned? s with
    | some n => .ok n
    | none => .error .malformed
  | read => read

end Turnstile

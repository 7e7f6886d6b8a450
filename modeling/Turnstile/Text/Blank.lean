import Turnstile.Text.CharSet

set_option autoImplicit false

/-! # Blanks

The characters that are cut off the ends of a text. There are two such sets: the white space of
Unicode, and that with the four information separators U+001C to U+001F. -/

namespace Turnstile

/-- The white space of Unicode 14. -/
def whiteSpace : CharSet :=
  ⟨[0x9, 0xE, 0x20, 0x21, 0x85, 0x86, 0xA0, 0xA1, 0x1680, 0x1681, 0x2000, 0x200B, 0x2028, 0x202A,
    0x202F, 0x2030, 0x205F, 0x2060, 0x3000, 0x3001]⟩

/-- The information separators, which stand between records of text. -/
def separators : CharSet := .range '\x1c' '\x1f'

/-- White space or a separator. -/
def isBlankOrSeparator (c : Char) : Bool := whiteSpace.contains c || separators.contains c

/-- A text without the characters at its ends that satisfy `blank`. -/
def trimBy (blank : Char → Bool) (cs : List Char) : List Char :=
  ((cs.dropWhile blank).reverse.dropWhile blank).reverse

end Turnstile

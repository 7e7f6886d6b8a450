import Turnstile.Text.Printable

set_option autoImplicit false

/-! # Quoted text

A text between quotes as messages show it, on one line and with nothing that cannot be seen. -/

namespace Turnstile

namespace Quoted

/-- The number of a character in hexadecimal digits, as many as its size asks for: two, four or
    eight. -/
def numbered (c : Char) : List Char :=
  let n := c.toNat
  let (mark, width) := if n < 0x100 then ('x', 2) else if n < 0x10000 then ('u', 4) else ('U', 8)
  '\\' :: mark :: (Nat.toDigits 16 n).leftpad width '0'

/-- A character between quotes of a kind. -/
def shown (quote c : Char) : List Char :=
  if c = quote ∨ c = '\\' then ['\\', c]
  else if c = '\n' then ['\\', 'n']
  else if c = '\r' then ['\\', 'r']
  else if c = '\t' then ['\\', 't']
  else if isPrintable c then [c]
  else numbered c

end Quoted

/-- A text in quotes: single ones, unless it holds such and no double ones. -/
def quoted (s : String) : String :=
  let quote := if s.contains '\'' && !s.contains '"' then '"' else '\''
  String.ofList (quote :: s.toList.flatMap (Quoted.shown quote) ++ [quote])

end Turnstile

import Turnstile.Text.Hex

set_option autoImplicit false

/-! # Percent-encoded text

`percentEncode` writes the UTF-8 bytes of some characters as `%XX`. `percentDecode` puts the bytes
that `%XX` escapes stand for together with the ASCII around them and reads the whole as UTF-8. Bytes
that are no UTF-8 become U+FFFD, one for each longest stretch that could have begun a character. -/

namespace Turnstile

namespace Percent

/-! ## UTF-8 -/

/-- A character begun: its bits so far, the bytes it still needs and the range of the next one. No
    character is begun when it needs none. -/
structure Begun where
  bits : Nat := 0
  need : Nat := 0
  low : Nat := 0x80
  high : Nat := 0xBF

/-- Start with a byte, and what that already gives. -/
def start (b : Nat) : List Char × Begun :=
  if b < 0x80 then ([Char.ofNat b], {})
  else if b < 0xC2 then (['\uFFFD'], {})
  else if b < 0xE0 then ([], { bits := b - 0xC0, need := 1 })
  else if b < 0xF0 then
    ([], { bits := b - 0xE0, need := 2,
           low := if b = 0xE0 then 0xA0 else 0x80, high := if b = 0xED then 0x9F else 0xBF })
  else if b < 0xF5 then
    ([], { bits := b - 0xF0, need := 3,
           low := if b = 0xF0 then 0x90 else 0x80, high := if b = 0xF4 then 0x8F else 0xBF })
  else (['\uFFFD'], {})

/-- What a character begun gives when it is not gone on with. -/
def Begun.abandon (p : Begun) : List Char := if p.need = 0 then [] else ['\uFFFD']

/-- Go on with a byte. -/
def Begun.next (p : Begun) (b : Nat) : List Char × Begun :=
  if p.need = 0 then start b
  else if p.low ≤ b ∧ b ≤ p.high then
    let bits := p.bits * 64 + (b - 0x80)
    if p.need = 1 then ([Char.ofNat bits], {}) else ([], { bits, need := p.need - 1 })
  else
    let (cs, p') := start b
    (p.abandon ++ cs, p')

/-! ## Escapes -/

/-- The bytes and the characters beyond ASCII that a text stands for. -/
def pieces : List Char → List (Sum Nat Char)
  | [] => []
  | '%' :: a :: b :: rest =>
    match hexValue? a, hexValue? b with
    | some high, some low => .inl (16 * high + low) :: pieces rest
    | _, _ => .inl '%'.toNat :: pieces (a :: b :: rest)
  | c :: rest => (if c.toNat < 0x80 then .inl c.toNat else .inr c) :: pieces rest

/-- The characters of pieces. A character beyond ASCII ends the bytes before it. -/
def join (p : Begun) : List (Sum Nat Char) → List Char
  | [] => p.abandon
  | .inl b :: rest =>
    let (cs, p') := p.next b
    cs ++ join p' rest
  | .inr c :: rest => p.abandon ++ c :: join {} rest

end Percent

/-- The escape of a byte, with capital digits. -/
def Percent.escape (b : UInt8) : List Char :=
  '%' :: ((Nat.toDigits 16 b.toNat).map Char.toUpper).leftpad 2 '0'

/-- A text in which the characters outside `kept` are escaped. -/
def percentEncode (kept : Char → Bool) (cs : List Char) : List Char :=
  cs.flatMap fun c => if kept c then [c] else (String.utf8EncodeChar c).flatMap Percent.escape

/-- The text that a percent-encoded text stands for. -/
def percentDecode (cs : List Char) : List Char := Percent.join {} (Percent.pieces cs)

/-- The same, with plus signs for spaces. -/
def formDecode (cs : List Char) : List Char :=
  percentDecode (cs.map fun c => if c = '+' then ' ' else c)

end Turnstile

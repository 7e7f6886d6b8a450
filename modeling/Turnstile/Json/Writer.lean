import Turnstile.Binary64.Decimal
import Turnstile.Json.Token

set_option autoImplicit false

/-! # Writing JSON text

One writer in two styles. What the store keeps has a blank after each separator and is plain ASCII;
what a response carries has neither. Both escape quotes, backslashes and control characters. -/

namespace Turnstile

namespace Json

/-- The separators of a text, and whether only characters from the space to the tilde stand in it.
    -/
structure Style where
  comma : List Char
  colon : List Char
  ascii : Bool

/-- The style of the records in the store. -/
def Style.stored : Style := ⟨[',', ' '], [':', ' '], true⟩

/-- The style of response bodies. -/
def Style.compact : Style := ⟨[','], [':'], false⟩

/-- Numbers are written with a point from `0.0001` up to below `10^16`, others with an exponent. -/
def numberLayout : PointLayout := ⟨-4, 16⟩

/-! ## Scalars -/

/-- The `\u` escape of a code number below 2^16, in lower case. -/
def unitEscape (n : Nat) : List Char := '\\' :: 'u' :: (Nat.toDigits 16 n).leftpad 4 '0'

/-- The escape of a character: a pair of halves beyond the first 2^16. -/
def codeEscape (c : Char) : List Char :=
  let n := c.toNat
  if n < 0x10000 then unitEscape n
  else unitEscape (0xD800 + (n - 0x10000) / 0x400) ++ unitEscape (0xDC00 + (n - 0x10000) % 0x400)

/-- A character inside a string. -/
def writeChar (ascii : Bool) (c : Char) : List Char :=
  match c with
  | '"' => ['\\', '"']
  | '\\' => ['\\', '\\']
  | '\n' => ['\\', 'n']
  | '\r' => ['\\', 'r']
  | '\t' => ['\\', 't']
  | '\x08' => ['\\', 'b']
  | '\x0c' => ['\\', 'f']
  | c => if c.toNat < 0x20 || (ascii && 0x7F ≤ c.toNat) then codeEscape c else [c]

/-- A string in quotes. -/
def writeString (ascii : Bool) (s : String) : List Char :=
  '"' :: s.toList.flatMap (writeChar ascii) ++ ['"']

def writeInt (n : Int) : List Char :=
  if n < 0 then '-' :: Nat.toDigits 10 n.natAbs else Nat.toDigits 10 n.natAbs

def writeDouble : Binary64 → List Char
  | .nan => "NaN".toList
  | .infinite s => if s then "-Infinity".toList else "Infinity".toList
  | .finite s m q => Binary64.shortest numberLayout s m q

/-! ## Values -/

mutual

/-- The text of a value. -/
def writeValue (style : Style) : Json → List Char
  | .null => "null".toList
  | .bool b => if b then "true".toList else "false".toList
  | .int n => writeInt n
  | .double x => writeDouble x
  | .text s => writeString style.ascii s
  | .list items => '[' :: writeItems style items ++ [']']
  | .object members => '{' :: writeMembers style members ++ ['}']

/-- The items of a list, separated. -/
def writeItems (style : Style) : List Json → List Char
  | [] => []
  | [v] => writeValue style v
  | v :: w :: rest => writeValue style v ++ style.comma ++ writeItems style (w :: rest)

/-- The members of an object, separated. -/
def writeMembers (style : Style) : List (String × Json) → List Char
  | [] => []
  | [(k, v)] => writeString style.ascii k ++ style.colon ++ writeValue style v
  | (k, v) :: w :: rest =>
    writeString style.ascii k ++ style.colon ++ writeValue style v ++ style.comma
      ++ writeMembers style (w :: rest)

end

/-- The text of a value in a style. -/
def write (style : Style) (v : Json) : String := String.ofList (writeValue style v)

mutual

/-- Every integer of a value has few enough digits to be written. -/
def integersFit : Json → Bool
  | .int n => digitCount n.natAbs ≤ maxIntegerDigits
  | .list items => itemsFit items
  | .object members => membersFit members
  | _ => true

def itemsFit : List Json → Bool
  | [] => true
  | v :: rest => integersFit v && itemsFit rest

def membersFit : List (String × Json) → Bool
  | [] => true
  | (_, v) :: rest => integersFit v && membersFit rest

end

end Json

end Turnstile

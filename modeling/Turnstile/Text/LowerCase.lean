import Turnstile.Text.LowerCase.Table

set_option autoImplicit false

/-! # Lower case

The full lower-case form of a text. It is taken character by character but for one letter: a capital
sigma becomes the final form where a word ends with it, which is where a cased letter comes before
it and none after it, marks and apostrophes not counted. One capital, the dotted İ, has a lower-case
form of two characters. -/

namespace Turnstile

namespace LowerCase

/-- The lower-case form of a character by its run; a character in no run is its own. -/
def simple (c : Char) : Char :=
  let n := c.toNat
  match runs.find? fun r => r.first ≤ n && n ≤ r.last && (n - r.first) % r.step = 0 with
  | some r => Char.ofNat ((n : Int) + r.offset).toNat
  | none => c

/-- The first character that is not passed over is cased. -/
def meetsCased (cs : List Char) : Bool :=
  match cs.dropWhile passedOver.contains with
  | c :: _ => cased.contains c
  | [] => false

/-- The lower-case form of `c` after the characters `before`, nearest first, and ahead of `after`.
    -/
def charIn (before : List Char) (c : Char) (after : List Char) : List Char :=
  if c = 'Σ' && meetsCased before && !meetsCased after then ['ς']
  else if c = 'İ' then ['i', '\u0307']
  else [simple c]

/-- The lower-case form of a text that comes after the characters `before`, nearest first. -/
def textAfter (before : List Char) : List Char → List Char
  | [] => []
  | c :: rest => charIn before c rest ++ textAfter (c :: before) rest

end LowerCase

/-- The lower-case form of a text. -/
def lowerCase (s : String) : String := String.ofList (LowerCase.textAfter [] s.toList)

end Turnstile

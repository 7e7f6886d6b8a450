import Turnstile.Json.Token

set_option autoImplicit false

/-! # Reading JSON text

A reading takes one token after the other and holds the containers that are open around the place
reached. It refuses a text at the first token that cannot stand there, so of two faults in a text
the earlier one is told. -/

namespace Turnstile

namespace Json

/-- Why a text is not read: it is no JSON text, it holds an integer with too many digits, or its
    containers are nested too deep. -/
inductive ReadError where
  | malformed
  | integerTooLong
  | tooDeep
deriving DecidableEq, Repr, Inhabited

/-- A container may be opened inside fewer than this many others. -/
def maxDepth : Nat := 990

/-- An open container: a list with its items so far, last first, or an object with its members so
    far and the key whose value is being read. -/
inductive Frame where
  | list (items : List Json)
  | object (members : List (String × Json)) (key : String)

/-- A place in a text, with the containers open around it, innermost first. `closable` holds right
    after an opening bracket, where the container may end. -/
inductive Reading where
  | atValue (frames : List Frame) (closable : Bool)
  | atKey (frames : List Frame) (members : List (String × Json)) (closable : Bool)
  | atColon (frames : List Frame) (members : List (String × Json)) (key : String)
  | afterValue (frames : List Frame) (value : Json)

namespace Reading

/-- The place before a whole text. -/
def start : Reading := .atValue [] false

/-- Take a token where a value is expected. -/
def takeValue (frames : List Frame) (closable : Bool) : Token → Except ReadError Reading
  | .scalar v => .ok (.afterValue frames v)
  | .text s => .ok (.afterValue frames (.text s))
  | .oversized => .error .integerTooLong
  | .listOpen =>
    if frames.length < maxDepth then .ok (.atValue (.list [] :: frames) true) else .error .tooDeep
  | .objectOpen =>
    if frames.length < maxDepth then .ok (.atKey frames [] true) else .error .tooDeep
  | .listClose =>
    match closable, frames with
    | true, .list [] :: outer => .ok (.afterValue outer (.list []))
    | _, _ => .error .malformed
  | _ => .error .malformed

/-- Take a token where a key is expected. -/
def takeKey (frames : List Frame) (members : List (String × Json)) (closable : Bool) :
    Token → Except ReadError Reading
  | .text s => .ok (.atColon frames members s)
  | .objectClose =>
    if closable then .ok (.afterValue frames (.object members)) else .error .malformed
  | _ => .error .malformed

/-- Take a token after a value: a separator, or the bracket that ends the container. -/
def takeAfter : List Frame → Json → Token → Except ReadError Reading
  | .list items :: outer, v, .comma => .ok (.atValue (.list (v :: items) :: outer) false)
  | .list items :: outer, v, .listClose => .ok (.afterValue outer (.list (v :: items).reverse))
  | .object members key :: outer, v, .comma => .ok (.atKey outer (setMember key v members) false)
  | .object members key :: outer, v, .objectClose =>
    .ok (.afterValue outer (.object (setMember key v members)))
  | _, _, _ => .error .malformed

/-- Take one token. -/
def take : Reading → Token → Except ReadError Reading
  | .atValue frames closable, t => takeValue frames closable t
  | .atKey frames members closable, t => takeKey frames members closable t
  | .atColon frames members key, .colon => .ok (.atValue (.object members key :: frames) false)
  | .atColon .., _ => .error .malformed
  | .afterValue frames v, t => takeAfter frames v t

/-- The value read when the text ends here. -/
def finish : Reading → Except ReadError Json
  | .afterValue [] v => .ok v
  | _ => .error .malformed

end Reading

/-- The value of a JSON text. -/
def read (text : String) : Except ReadError Json := do
  (← (Token.all text.toList).foldlM Reading.take Reading.start).finish

end Json

end Turnstile

import Turnstile.Binary64.Basic

set_option autoImplicit false

/-! # JSON values

The values that the shared store holds as text. Integers are unbounded and apart from binary64
numbers, so `1` and `1.0` are different values; an object keeps its members in order, with
distinct keys. -/

namespace Turnstile

/-- A JSON value. -/
inductive Json where
  | null
  | bool (b : Bool)
  | int (n : Int)
  | double (x : Binary64)
  | text (s : String)
  | list (items : List Json)
  | object (members : List (String × Json))
deriving Inhabited, Repr

namespace Json

/-- Set the member `key`: in its old place when it is there, at the end when it is not. -/
def setMember (key : String) (value : Json) : List (String × Json) → List (String × Json)
  | [] => [(key, value)]
  | (k, v) :: rest => if k = key then (key, value) :: rest else (k, v) :: setMember key value rest

/-- The member of an object under `key`. -/
def member? (key : String) : Json → Option Json
  | .object members => members.lookup key
  | _ => none

/-- The text that a value is, if it is one. -/
def text? : Json → Option String
  | .text s => some s
  | _ => none

/-- A text, or `null` where there is none. -/
def textOrNull : Option String → Json
  | some s => .text s
  | none => .null

/-- What counts as true: all but `null`, `false`, zero and whatever is empty. -/
def truthy : Json → Bool
  | .null => false
  | .bool b => b
  | .int n => n != 0
  | .double x => !x.isZero
  | .text s => s != ""
  | .list items => !items.isEmpty
  | .object members => !members.isEmpty

/-- What a value holds, one after the other: the items of a list, the keys of an object, the
    characters of a text. -/
def contents? : Json → Option (List Json)
  | .list items => some items
  | .object members => some (members.map fun p => .text p.1)
  | .text s => some (s.toList.map fun c => .text (String.ofList [c]))
  | _ => none

/-- The word for the type of a value. -/
def typeName : Json → String
  | .null => "NoneType"
  | .bool _ => "bool"
  | .int _ => "int"
  | .double _ => "float"
  | .text _ => "str"
  | .list _ => "list"
  | .object _ => "dict"

end Json

end Turnstile

import Turnstile.Failure

set_option autoImplicit false

/-! # The attempt window

A record of failed attempts is an object whose member `attempts` lists timestamps in milliseconds.
`Window.recent` keeps of such a list what is newer than the start of the window. It is tolerant of
what it finds: anything but a finite number is dropped, and a number with a fraction counts by its
integer part. Timestamps ahead of the reader's clock are kept, as other clocks may run ahead. -/

namespace Turnstile

namespace Window

/-- The instant that a window of `seconds` ending at `now` starts at; what is later lies in it. -/
def start (now seconds : Int) : Int := now - seconds * 1000

/-- The timestamp that an item counts as, when it is a finite number later than `since`. An integer
    beyond the range of binary64 numbers cannot be told finite. -/
def timestamp? (since : Int) : Json → Except Failure (Option Int)
  | .int n =>
    if inBinary64Range n then .ok (if since < n then some n else none) else .error .numberTooLarge
  | .double x => .ok (if x.exceeds since then x.truncate? else none)
  | _ => .ok none

/-- The timestamps of a list later than `since`, in its order. -/
def later (since : Int) : List Json → Except Failure (List Int)
  | [] => .ok []
  | item :: rest =>
    match timestamp? since item with
    | .error f => .error f
    | .ok none => later since rest
    | .ok (some ts) => (later since rest).map (ts :: ·)

/-- The timestamps that lie in a window of `seconds` ending at `now`. -/
def recent (attempts : List Json) (now seconds : Int) : Except Failure (List Int) :=
  later (start now seconds) attempts

/-- The list of attempts in a stored value; anything without such a list holds none. -/
def attempts (stored : Json) : List Json :=
  match stored.member? "attempts" with
  | some (.list items) => items
  | _ => []

/-- The record that holds a list of timestamps. -/
def record (timestamps : List Int) : Json :=
  .object [("attempts", .list (timestamps.map .int))]

end Window

end Turnstile

import Turnstile.Text.Cut
import Turnstile.Text.Hex

set_option autoImplicit false

/-! # Numeric host addresses

Which texts are IPv4 and IPv6 addresses. A host in brackets has to be one of version 6. -/

namespace Turnstile

namespace Address

/-- A number of an IPv4 address: one to three digits, without a leading zero, up to 255. -/
def isIpv4Number (cs : List Char) : Bool :=
  cs.all Char.isDigit && (cs.length = 1 || (cs.length ≤ 3 && cs.head? != some '0'))
    && cs.length != 0 && cs.foldl (fun n c => 10 * n + (c.toNat - '0'.toNat)) 0 ≤ 255

/-- Four numbers between full stops. -/
def isIpv4 (cs : List Char) : Bool :=
  let parts := cs.splitOn '.'
  parts.length = 4 && parts.all isIpv4Number

/-- A group of an IPv6 address: one to four hexadecimal digits. -/
def isIpv6Group (cs : List Char) : Bool :=
  cs.length != 0 && cs.length ≤ 4 && cs.all fun c => (hexValue? c).isSome

/-- The groups of an IPv6 address; an IPv4 address at the end stands for two. -/
def ipv6Groups? (cs : List Char) : Option (List (List Char)) :=
  let parts := cs.splitOn ':'
  match parts.getLast? with
  | some last =>
    if last.contains '.' then
      if isIpv4 last then some (parts.dropLast ++ [['0'], ['0']]) else none
    else some parts
  | none => none

/-- Groups before and after the place where zeros are left out. A colon at either end is only right
    as part of that place. -/
def fitsAround (before after : List (List Char)) : Bool :=
  let inner (side : List (List Char)) : List (List Char) := if side = [[]] then [] else side
  (inner before).all isIpv6Group && (inner after).all isIpv6Group
    && (inner before).length + (inner after).length < 8

/-- Eight groups, or fewer with one place where zeros are left out. -/
def isIpv6 (text : List Char) : Bool :=
  let (cs, zone) := cutAt '%' text
  zone.all (fun z => z ≠ [] ∧ !z.contains '%') &&
    match ipv6Groups? cs with
    | none => false
    | some groups =>
      3 ≤ groups.length && groups.length ≤ 9 &&
        match (List.range groups.length).filter fun i =>
            0 < i && i + 1 < groups.length && groups[i]? = some [] with
        | [] => groups.length = 8 && groups.all isIpv6Group
        | [i] => fitsAround (groups.take i) (groups.drop (i + 1))
        | _ => false

end Address

end Turnstile

import Turnstile.Address.Ip
import Turnstile.Text.Integer
import Turnstile.Text.LowerCase

set_option autoImplicit false

/-! # Addresses

A URL in its parts, as it is written: scheme, authority, path and query, of which the authority has
a user, a password, a host and a port. Nothing is percent-decoded here. -/

namespace Turnstile

namespace Address

/-- Why a text has no parts, or its authority no port. -/
inductive PartsError where
  | misplacedBrackets
  /-- The authority has a character that some readers would take for a mark of the address. -/
  | disguisedMark (authority : String)
  | invalidFutureHost
  | ipv4InBrackets
  | unknownHost (host : String)
  | portNotNumeric (port : String)
  | portTooLong (digits : Nat)
  | portOutOfRange
deriving DecidableEq, Repr

/-- The parts of an address. -/
structure Parts where
  scheme : String
  authority : List Char
  path : List Char
  query : List Char
deriving DecidableEq, Repr

/-! ## Taking apart -/

def isAsciiLetter (c : Char) : Bool := c.isAlpha

/-- A letter, a digit or one of three marks. -/
def isSchemeChar (c : Char) : Bool := c.isAlphanum || c = '+' || c = '-' || c = '.'

/-- The scheme in lower case, when there is one, and what follows its colon. -/
def cutScheme (cs : List Char) : String × List Char :=
  match cutAt ':' cs with
  | (first :: more, some rest) =>
    if isAsciiLetter first && more.all isSchemeChar then
      (String.ofList ((first :: more).map Char.toLower), rest)
    else ("", cs)
  | _ => ("", cs)

/-- The authority, which two slashes announce, and what follows it. -/
def cutAuthority : List Char → List Char × List Char
  | '/' :: '/' :: rest =>
    let ends (c : Char) : Bool := c = '/' || c = '?' || c = '#'
    (rest.takeWhile (!ends ·), rest.dropWhile (!ends ·))
  | cs => ([], cs)

/-- A host in brackets is an IPv6 address, or one of a version yet to come: a `v`, hexadecimal
    digits, a full stop and more. -/
def checkBracketed (host : List Char) : Except PartsError Unit :=
  match host with
  | 'v' :: rest =>
    match cutAt '.' rest with
    | (version, some (_ :: _)) =>
      if version ≠ [] ∧ version.all fun c => (hexValue? c).isSome then .ok ()
      else .error .invalidFutureHost
    | _ => .error .invalidFutureHost
  | _ =>
    if isIpv4 host then .error .ipv4InBrackets
    else if isIpv6 host then .ok ()
    else .error (.unknownHost (String.ofList host))

/-- What follows the host in an authority is nothing or a colon and a port. -/
def isPortPart (cs : List Char) : Bool :=
  match cs with
  | [] => true
  | c :: _ => c = ':'

/-- Brackets in an authority come in pairs and stand round the host, with nothing but a port after
    them. Where only the user has brackets, the host is still taken for one in brackets. -/
def checkBrackets (authority : List Char) : Except PartsError Unit :=
  match authority.contains '[', authority.contains ']' with
  | false, false => .ok ()
  | true, true =>
    let host := (cutAtLast '@' authority).2
    match cutAt '[' host with
    | (_, none) => checkBracketed (cutAt ':' host).1
    | (before, some bracketed) =>
      let (name, after) := cutAt ']' bracketed
      if before = [] ∧ isPortPart (after.getD []) then checkBracketed name
      else .error .misplacedBrackets
  | _, _ => .error .misplacedBrackets

/-- The characters whose compatibility form has one of the marks `/`, `?`, `#`, `@` and `:` in it.
    -/
def disguisedMarks : List Char :=
  ['⁇', '⁈', '⁉', '℀', '℁', '℅', '℆', '⩴', '︓', '︖', '﹕', '﹖', '﹟', '﹫', '＃', '／', '：', '？',
    '＠']

/-- An authority has no mark in disguise. -/
def checkMarks (authority : List Char) : Except PartsError Unit :=
  if authority.any disguisedMarks.contains then .error (.disguisedMark (String.ofList authority))
  else .ok ()

/-- The parts of a text. Control characters and spaces before it, and tabs and line breaks anywhere,
    do not count; nor does what follows a `#`. -/
def parts (text : String) : Except PartsError Parts := do
  let trimmed := text.toList.dropWhile (·.toNat ≤ 0x20)
  let cs := trimmed.filter fun c => c ≠ '\t' ∧ c ≠ '\r' ∧ c ≠ '\n'
  let (scheme, rest) := cutScheme cs
  let (authority, rest) := cutAuthority rest
  checkBrackets authority
  checkMarks authority
  let (path, query) := cutAt '?' (cutAt '#' rest).1
  return { scheme, authority, path, query := query.getD [] }

/-! ## The authority -/

/-- The user and the password, each when there is one. -/
def Parts.user (p : Parts) : Option (List Char) × Option (List Char) :=
  match (cutAtLast '@' p.authority).1 with
  | none => (none, none)
  | some user =>
    let (name, password) := cutAt ':' user
    (some name, password)

/-- The host and the text of the port. -/
def Parts.hostAndPort (p : Parts) : List Char × List Char :=
  let host := (cutAtLast '@' p.authority).2
  match cutAt '[' host with
  | (_, some bracketed) =>
    let (name, rest) := cutAt ']' bracketed
    (name, ((cutAt ':' (rest.getD [])).2).getD [])
  | (_, none) =>
    let (name, port) := cutAt ':' host
    (name, port.getD [])

/-- The host in lower case, up to a zone. -/
def Parts.host (p : Parts) : List Char :=
  let (name, zone) := cutAt '%' p.hostAndPort.1
  (lowerCase (String.ofList name)).toList ++
    match zone with
    | some z => '%' :: z
    | none => []

/-- The longest text of a number that is read. -/
def maxDigits : Nat := 4300

/-- The port, when there is one. -/
def Parts.port? (p : Parts) : Except PartsError (Option Nat) :=
  match p.hostAndPort.2 with
  | [] => .ok none
  | cs =>
    if !cs.all Char.isDigit then .error (.portNotNumeric (String.ofList cs))
    else if maxDigits < cs.length then .error (.portTooLong cs.length)
    else
      let n := natOfDigitValues (cs.filterMap asciiDigit?)
      if n ≤ 65535 then .ok (some n) else .error .portOutOfRange

end Address

end Turnstile

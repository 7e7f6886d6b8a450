import Turnstile.Secret.Digest

set_option autoImplicit false

/-! # Hashed secrets

The text `$2b$12$` + 22 characters of salt + 31 characters of digest. `Salt.ofText?` reads what
comes before the digest, in any of four versions that all hash alike; `hashText` writes the whole. A
secret verifies against a hash when hashing it again with the salt read from that hash writes the
same text, so whatever else the text holds, or lacks, makes it fail. -/

namespace Turnstile

namespace Bcrypt

/-! ## Six bits a character -/

/-- The 64 characters, in the order of their values. -/
def alphabet : List Char :=
  "./ABCDEFGHIJKLMNOPQRSTUVWXYZabcdefghijklmnopqrstuvwxyz0123456789".toList

/-- The character of six bits. -/
def digit (n : Nat) : Char := alphabet.getD (n % 64) '.'

/-- The six bits of a character. -/
def digitValue? (c : Char) : Option Nat := alphabet.idxOf? c

/-- Bytes written six bits a character; the bits missing at the end are zero. -/
def encode : List UInt8 → List Char
  | [] => []
  | [a] => [digit (a.toNat / 4), digit (a.toNat % 4 * 16)]
  | [a, b] =>
    [digit (a.toNat / 4), digit (a.toNat % 4 * 16 + b.toNat / 16), digit (b.toNat % 16 * 4)]
  | a :: b :: c :: rest =>
    digit (a.toNat / 4) :: digit (a.toNat % 4 * 16 + b.toNat / 16)
      :: digit (b.toNat % 16 * 4 + c.toNat / 64) :: digit (c.toNat % 64) :: encode rest

/-- The bytes that characters write. Bits left over at the end must be zero. -/
def decode : List Char → Option (List UInt8)
  | [] => some []
  | [_] => none
  | [p, q] => do
    let (p, q) := (← digitValue? p, ← digitValue? q)
    if q % 16 = 0 then some [(p * 4 + q / 16).toUInt8] else none
  | [p, q, r] => do
    let (p, q, r) := (← digitValue? p, ← digitValue? q, ← digitValue? r)
    if r % 4 = 0 then some [(p * 4 + q / 16).toUInt8, (q % 16 * 16 + r / 4).toUInt8] else none
  | p :: q :: r :: s :: rest => do
    let (p, q, r, s) := (← digitValue? p, ← digitValue? q, ← digitValue? r, ← digitValue? s)
    let bytes ← decode rest
    some ((p * 4 + q / 16).toUInt8 :: (q % 16 * 16 + r / 4).toUInt8 :: (r % 4 * 64 + s).toUInt8
      :: bytes)

/-! ## Salts -/

/-- The version of a hash. All four are computed alike. -/
inductive Version where
  | a
  | b
  | x
  | y
deriving DecidableEq, Repr

def Version.name : Version → String
  | .a => "2a"
  | .b => "2b"
  | .x => "2x"
  | .y => "2y"

def Version.ofName? (s : String) : Option Version :=
  [Version.a, .b, .x, .y].find? (·.name = s)

/-- What a hash is computed with. -/
structure Salt where
  version : Version
  cost : Nat
  bytes : List UInt8
deriving DecidableEq, Repr

/-- The number of a cost: digits, after an optional plus sign, below 2^32. -/
def costOfText? (s : String) : Option Nat :=
  let digits := match s.toList with
    | '+' :: rest => rest
    | cs => cs
  if digits.isEmpty || !digits.all Char.isDigit then none
  else
    let n := digits.foldl (fun n c => 10 * n + (c.toNat - '0'.toNat)) 0
    if n < 1 <<< 32 then some n else none

/-- The characters that write the salt's sixteen bytes. -/
def saltLength : Nat := 22

/-- The salt of a text: three parts between dollar signs, empty parts not counted, of which the last
    may go on after the salt. -/
def Salt.ofText? (s : String) : Option Salt :=
  match (s.toList.splitOn '$').filter (!·.isEmpty) with
  | [version, cost, rest] => do
    let version ← Version.ofName? (String.ofList version)
    let cost ← costOfText? (String.ofList cost)
    if rest.length < saltLength then none
    else
      let bytes ← decode (rest.take saltLength)
      if 4 ≤ cost ∧ cost ≤ 31 then some ⟨version, cost, bytes⟩ else none
  | _ => none

/-- The text of a salt, which the digest follows in a hash. -/
def Salt.text (s : Salt) : String :=
  "$" ++ s.version.name ++ "$" ++ String.ofList ((Nat.toDigits 10 s.cost).leftpad 2 '0') ++ "$"
    ++ String.ofList (encode s.bytes)

/-! ## Hashing -/

/-- Why a secret is not hashed. -/
inductive HashError where
  | secretTooLong
  | invalidSalt
deriving DecidableEq, Repr

def HashError.message : HashError → String
  | .secretTooLong =>
    "password cannot be longer than 72 bytes, truncate manually if necessary "
      ++ "(e.g. my_password[:72])"
  | .invalidSalt => "Invalid salt"

/-- A digest of bytes by a cost and a salt. -/
abbrev Digest := (cost : Nat) → (salt password : List UInt8) → List UInt8

/-- The bytes of a secret. -/
def secretBytes (plain : String) : List UInt8 := plain.toUTF8.toList

/-- The hash of a secret with the salt that a text starts with. -/
def hashText (digest : Digest) (plain salt : String) : Except HashError String :=
  if maxKey < (secretBytes plain).length then .error .secretTooLong
  else
    match Salt.ofText? salt with
    | none => .error .invalidSalt
    | some s => .ok (s.text ++ String.ofList (encode (digest s.cost s.bytes (secretBytes plain))))

/-- A secret verifies against a hash: both are there, and hashing it again gives that hash. -/
def verify (digest : Digest) (plain hashed : Option String) : Bool :=
  match plain, hashed with
  | some p, some h =>
    match hashText digest p h with
    | .ok again => p ≠ "" && h ≠ "" && again == h
    | .error _ => false
  | _, _ => false

end Bcrypt

end Turnstile

set_option autoImplicit false

/-! # The bcrypt digest

The raw digest under a password hash: a Blowfish cipher whose tables are set up again and again from
the password and the salt, `2^cost` times over, and which then enciphers a fixed text. The tables
start as the fraction of π, so they are computed and not listed. -/

namespace Turnstile

namespace Bcrypt

/-! ## The fraction of π -/

/-- The first `terms` terms of the series of `unit · arctan (1/x)`, from the one of exponent
    `exponent` on; `power` is `unit / x^exponent`. -/
def arctanTerms (x : Nat) : (terms exponent : Nat) → (power : Int) → Int
  | 0, _, _ => 0
  | terms + 1, exponent, power =>
    power / (exponent : Int) - arctanTerms x terms (exponent + 2) (power / (x * x : Int))

/-- The first `bits` bits of the fraction of π, by Machin's formula with 64 bits to spare. Each term
    of the series of `1/5` adds more than four bits. -/
def piFraction (bits : Nat) : Nat :=
  let unit : Int := (1 <<< (bits + 64) : Nat)
  let arctan (x : Nat) : Int := arctanTerms x (bits / 4 + 16) 1 (unit / x)
  let pi := 16 * arctan 5 - 4 * arctan 239
  (pi - 3 * unit).toNat >>> 64

/-! ## The cipher -/

/-- The cipher's tables in one row: 18 subkeys and four boxes of 256 words. -/
def tableSize : Nat := 18 + 4 * 256

/-- The 32-bit words of a number of `n` words, the highest first. -/
def wordsOf (n value : Nat) : List UInt32 :=
  (List.range n).map fun i => (value >>> (32 * (n - 1 - i))).toUInt32

/-- The tables before any key is set: the fraction of π. -/
def initialTables : Array UInt32 := (wordsOf tableSize (piFraction (32 * tableSize))).toArray

/-- The word at a place of the tables. -/
def word (tables : Array UInt32) (i : Nat) : UInt32 := tables.getD i 0

/-- The round function: each byte of a word picks a word of its own box. -/
def mix (tables : Array UInt32) (x : UInt32) : UInt32 :=
  let pick (box : Nat) (byte : UInt32) : UInt32 := word tables (18 + 256 * box + byte.toNat)
  ((pick 0 (x >>> 24) + pick 1 ((x >>> 16) &&& 0xFF)) ^^^ pick 2 ((x >>> 8) &&& 0xFF))
    + pick 3 (x &&& 0xFF)

/-- The last `n` of the sixteen rounds, and the closing subkeys. -/
def rounds (tables : Array UInt32) : Nat → UInt32 → UInt32 → UInt32 × UInt32
  | 0, l, r => (r ^^^ word tables 17, l ^^^ word tables 16)
  | n + 1, l, r =>
    let l' := l ^^^ word tables (15 - n)
    rounds tables n (r ^^^ mix tables l') l'

/-- A block enciphered. -/
def encipher (tables : Array UInt32) (block : UInt32 × UInt32) : UInt32 × UInt32 :=
  rounds tables 16 block.1 block.2

/-! ## Keys -/

/-- The word of four bytes that starts at the `4·i`-th, going around at the end. -/
def cyclicWord (bytes : Array UInt8) (i : Nat) : UInt32 :=
  let byte (j : Nat) : UInt32 := (bytes.getD ((4 * i + j) % bytes.size) 0).toUInt32
  (byte 0 <<< 24) ||| (byte 1 <<< 16) ||| (byte 2 <<< 8) ||| byte 3

/-- A key goes into the subkeys. -/
def addKey (tables : Array UInt32) (key : Array UInt8) : Array UInt32 :=
  (List.range 18).foldl (fun t i => t.setIfInBounds i (word t i ^^^ cyclicWord key i)) tables

/-- The whole row is replaced, two words at a time, by a block enciphered over and over; a salt goes
    into it before each time. -/
def refill (tables : Array UInt32) (salt : Nat → UInt32) : Array UInt32 :=
  let step (state : Array UInt32 × UInt32 × UInt32) (k : Nat) : Array UInt32 × UInt32 × UInt32 :=
    let (t, l, r) := state
    let (l', r') := encipher t (l ^^^ salt (2 * k), r ^^^ salt (2 * k + 1))
    ((t.setIfInBounds (2 * k) l').setIfInBounds (2 * k + 1) r', l', r')
  ((List.range (tableSize / 2)).foldl step (tables, 0, 0)).1

/-- The tables for a password and a salt. -/
def setUp (cost : Nat) (salt key : Array UInt8) : Array UInt32 :=
  let noSalt (_ : Nat) : UInt32 := 0
  let again (t : Array UInt32) : Array UInt32 :=
    refill (addKey (refill (addKey t key) noSalt) salt) noSalt
  Nat.repeat again (1 <<< cost) (refill (addKey initialTables key) (cyclicWord salt))

/-! ## The digest -/

/-- The text that is enciphered. -/
def magic : List (UInt32 × UInt32) :=
  [(0x4F727068, 0x65616E42), (0x65686F6C, 0x64657253), (0x63727944, 0x6F756274)]

/-- The bytes of a word, the highest first. -/
def bytesOf (x : UInt32) : List UInt8 :=
  [(x >>> 24).toUInt8, (x >>> 16).toUInt8, (x >>> 8).toUInt8, x.toUInt8]

/-- The longest key in bytes. -/
def maxKey : Nat := 72

/-- The 23 bytes of the digest of a password. A zero byte ends the key where there is room for it.
    -/
def digest (cost : Nat) (salt password : List UInt8) : List UInt8 :=
  let key := ((password ++ [0]).take maxKey).toArray
  let tables := setUp cost salt.toArray key
  let blocks := magic.map (Nat.repeat (encipher tables) 64)
  (blocks.flatMap fun (l, r) => bytesOf l ++ bytesOf r).take 23

end Bcrypt

end Turnstile

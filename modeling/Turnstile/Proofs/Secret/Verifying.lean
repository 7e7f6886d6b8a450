import Turnstile.Guard
import Turnstile.Proofs.Secret.SixBits

set_option autoImplicit false

/-! # Verifying what was hashed

A hash holds the salt that it was computed with, and from the hash the salt is read again
(`Salt.Valid.ofText?_hash`): the version, the cost and the bytes are apart from each other and from
the digest, whatever the digest is. So a secret verifies against the hash of another exactly if they
have the same digest (`verify_hash_iff`), and against no text that is not, to the last character,
what hashing it renders (`verify_eq_true_iff`). -/

namespace Turnstile

namespace Bcrypt

/-! ## Salts -/

/-- A salt as it can be read from a text. -/
structure Salt.Valid (s : Salt) : Prop where
  cost : 4 ≤ s.cost ∧ s.cost ≤ 31
  length : s.bytes.length = 16

theorem Version.ofName?_name (v : Version) : ofName? v.name = some v := by
  cases v <;> decide

theorem Version.name_plain (v : Version) : '$' ∉ v.name.toList ∧ v.name.toList ≠ [] := by
  cases v <;> decide

/-- The digits of a cost in the text of a salt, of which there are at least two. -/
def costDigits (cost : Nat) : List Char := (Nat.toDigits 10 cost).leftpad 2 '0'

theorem costOfText?_costDigits {cost : Nat} (le : cost ≤ 31) :
    costOfText? (String.ofList (costDigits cost)) = some cost := by
  have each : ∀ n < 32, costOfText? (String.ofList (costDigits n)) = some n := by decide +kernel
  exact each cost (Nat.lt_succ_of_le le)

theorem costDigits_plain {cost : Nat} (le : cost ≤ 31) :
    '$' ∉ costDigits cost ∧ costDigits cost ≠ [] := by
  have each : ∀ n < 32, '$' ∉ costDigits n ∧ costDigits n ≠ [] := by decide +kernel
  exact each cost (Nat.lt_succ_of_le le)

theorem Salt.valid_of_ofText? {text : String} {s : Salt} (h : ofText? text = some s) : s.Valid := by
  unfold ofText? at h
  split at h
  · next version cost rest parts =>
    simp only [Option.bind_eq_bind, Option.bind_eq_some_iff, Option.ite_none_left_eq_some,
      Option.ite_none_right_eq_some, Option.some.injEq] at h
    obtain ⟨version, -, cost, -, long, bytes, read, range, rfl⟩ := h
    refine ⟨range, ?_⟩
    have length := length_of_decode read
    rw [List.length_take, Nat.min_eq_left (Nat.le_of_not_lt long)] at length
    exact length
  · cases h

/-- The parts of a text that begins with a salt. -/
theorem Salt.toList_text_append (s : Salt) (more : List Char) :
    (s.text ++ String.ofList more).toList
      = ['$'].intercalate
        [[], s.version.name.toList, costDigits s.cost, encode s.bytes ++ more] := by
  simp [text, costDigits, List.intercalate]

/-- The salt that a text begins with is read from it, as long as no dollar sign comes after. -/
theorem Salt.Valid.ofText?_text_append {s : Salt} (valid : s.Valid) {more : List Char}
    (plain : '$' ∉ more) : ofText? (s.text ++ String.ofList more) = some s := by
  have version := s.version.name_plain
  have cost := costDigits_plain valid.cost.2
  have length : (encode s.bytes).length = saltLength := by
    rw [length_encode, valid.length]
    rfl
  have parts : (s.text ++ String.ofList more).toList.splitOn '$'
      = [[], s.version.name.toList, costDigits s.cost, encode s.bytes ++ more] := by
    rw [toList_text_append]
    refine List.splitOn_intercalate '$' ?_ (List.cons_ne_nil _ _)
    simp [version.1, cost.1, dollar_notMem_encode, plain]
  have long : ¬(encode s.bytes ++ more).length < saltLength := by
    rw [List.length_append, length]
    omega
  have filled : encode s.bytes ++ more ≠ [] := by
    intro empty
    rw [empty] at long
    exact long (by decide)
  have kept : [[], s.version.name.toList, costDigits s.cost, encode s.bytes ++ more].filter
      (!·.isEmpty) = [s.version.name.toList, costDigits s.cost, encode s.bytes ++ more] := by
    simp [version.2, cost.2, filled]
  have cut : (encode s.bytes ++ more).take saltLength = encode s.bytes := by
    rw [← length, List.take_left]
  simp only [ofText?, parts, kept, String.ofList_toList, Version.ofName?_name,
    costOfText?_costDigits valid.cost.2, if_neg long, cut, decode_encode, if_pos valid.cost,
    Option.bind_eq_bind, Option.bind_some]

/-! ## Hashes -/

/-- What hashing a secret with a salt renders. -/
def Salt.hash (digest : Digest) (s : Salt) (plain : String) : String :=
  s.text ++ String.ofList (encode (digest s.cost s.bytes (secretBytes plain)))

variable {digest : Digest}

theorem Salt.Valid.ofText?_hash {s : Salt} (valid : s.Valid) (plain : String) :
    ofText? (s.hash digest plain) = some s :=
  valid.ofText?_text_append (dollar_notMem_encode _)

theorem Salt.Valid.ofText?_text {s : Salt} (valid : s.Valid) : ofText? s.text = some s := by
  have alone := valid.ofText?_text_append List.not_mem_nil
  rwa [String.ofList_nil, String.append_empty] at alone

theorem Salt.hash_ne_empty (s : Salt) (plain : String) : s.hash digest plain ≠ "" := by
  intro empty
  have chars := congrArg String.toList empty
  simp [hash, text] at chars

/-- Equal hashes with one salt are of equal digests. -/
theorem Salt.hash_inj {s : Salt} {plain plain' : String} :
    s.hash digest plain = s.hash digest plain'
      ↔ digest s.cost s.bytes (secretBytes plain) = digest s.cost s.bytes (secretBytes plain') := by
  rw [hash, hash, String.append_right_inj, String.ofList_inj]
  constructor
  · intro same
    have read := congrArg decode same
    rwa [decode_encode, decode_encode, Option.some.injEq] at read
  · exact congrArg encode

/-- A secret is hashed if it has at most 72 bytes and the salt can be read. -/
theorem hashText_eq_ok_iff {plain salt hashed : String} :
    hashText digest plain salt = .ok hashed
      ↔ (secretBytes plain).length ≤ 72
        ∧ ∃ s, Salt.ofText? salt = some s ∧ hashed = s.hash digest plain := by
  have bound : maxKey = 72 := rfl
  rw [hashText, bound]
  by_cases long : 72 < (secretBytes plain).length
  · rw [if_pos long]
    exact iff_of_false (by simp) fun fits => absurd fits.1 (Nat.not_le_of_lt long)
  · rw [if_neg long]
    have fits : (secretBytes plain).length ≤ 72 := Nat.le_of_not_lt long
    cases Salt.ofText? salt with
    | none => simp
    | some s => simp [fits, Salt.hash, eq_comm]

/-! ## Verifying -/

/-- What verifies was hashed to the very text, with the salt that is read from it. -/
theorem verify_eq_true_iff {plain hashed : String} :
    verify digest (some plain) (some hashed) = true
      ↔ plain ≠ "" ∧ hashed ≠ "" ∧ (secretBytes plain).length ≤ 72
        ∧ ∃ s, Salt.ofText? hashed = some s ∧ hashed = s.hash digest plain := by
  rw [← hashText_eq_ok_iff, verify]
  cases hashText digest plain hashed with
  | ok again => simp [and_assoc]
  | error e => simp

/-- A secret verifies against the hash of another if it is not empty nor too long and has the same
    digest. -/
theorem verify_hash_iff {s : Salt} (valid : s.Valid) {p plain : String} :
    verify digest (some p) (some (s.hash digest plain)) = true
      ↔ p ≠ "" ∧ (secretBytes p).length ≤ 72
        ∧ digest s.cost s.bytes (secretBytes p) = digest s.cost s.bytes (secretBytes plain) := by
  rw [verify_eq_true_iff]
  constructor
  · rintro ⟨filled, -, fits, s', read, same⟩
    cases Option.some.inj ((valid.ofText?_hash plain).symm.trans read)
    exact ⟨filled, fits, Salt.hash_inj.1 same.symm⟩
  · rintro ⟨filled, fits, same⟩
    exact ⟨filled, s.hash_ne_empty plain, fits, s, valid.ofText?_hash plain,
      (Salt.hash_inj.2 same).symm⟩

theorem verify_of_malformed {plain : Option String} {hashed : String}
    (malformed : Salt.ofText? hashed = none) : verify digest plain (some hashed) = false := by
  cases plain with
  | none => rfl
  | some p =>
    rw [Bool.eq_false_iff]
    intro verifies
    obtain ⟨-, -, -, s, read, -⟩ := verify_eq_true_iff.1 verifies
    rw [malformed] at read
    cases read

/-- **A secret verifies against its hash, and against nothing else.** Whatever salt a secret was
    hashed with, it verifies against what came of it, unless it is empty. Two texts verify only if
    both are filled, the secret has at most 72 bytes, and the hash is what hashing the secret with
    the version, the cost and the bytes that are read from it renders. Nothing verifies against what
    is no hash, or where one of the two is absent, and no text makes the guard fail. Every salt that
    can be read has sixteen bytes and a cost in range, and with every such salt a secret that is not
    too long is hashed. -/
theorem verifies_iff_hashed (digest : Digest) :
    (∀ plain salt hashed, plain ≠ "" → hashText digest plain salt = .ok hashed →
        verify digest (some plain) (some hashed) = true)
      ∧ (∀ plain hashed, verify digest (some plain) (some hashed) = true
        ↔ plain ≠ "" ∧ hashed ≠ "" ∧ (secretBytes plain).length ≤ 72
          ∧ ∃ s, Salt.ofText? hashed = some s ∧ hashed = s.hash digest plain)
      ∧ (∀ plain hashed, Salt.ofText? hashed = none → verify digest plain (some hashed) = false)
      ∧ (∀ plain, verify digest plain none = false) ∧ (∀ hashed, verify digest none hashed = false)
      ∧ (∀ plain hashed, Guard.matching (Json.textOrNull plain) (Json.textOrNull hashed)
        = .ok (verify Bcrypt.digest plain hashed))
      ∧ (∀ salt s, Salt.ofText? salt = some s → s.Valid)
      ∧ ∀ (s : Salt) plain, s.Valid → (secretBytes plain).length ≤ 72 →
        hashText digest plain s.text = .ok (s.hash digest plain) := by
  refine ⟨?_, fun _ _ => verify_eq_true_iff, fun _ _ => verify_of_malformed, ?_, fun _ => rfl,
    Guard.matching_textOrNull, fun _ _ => Salt.valid_of_ofText?, ?_⟩
  · intro plain salt hashed filled hashes
    obtain ⟨fits, s, read, rfl⟩ := hashText_eq_ok_iff.1 hashes
    exact (verify_hash_iff (Salt.valid_of_ofText? read)).2 ⟨filled, fits, rfl⟩
  · intro plain
    cases plain <;> rfl
  · intro s plain valid fits
    exact hashText_eq_ok_iff.2 ⟨fits, s, valid.ofText?_text, rfl⟩

/-- A digest that shows the salt and then the secret. -/
def plainDigest : Digest := fun _ salt password => (salt ++ password).take 23

/-- The cost of a salt is written with a sign. The hash has it without, and the secret verifies
    against that; it does not against what is no hash. -/
theorem verifies_iff_hashed_of_signedCost :
    let salt := "$2y$+4$......................"
    let hashed := "$2y$04$...........................................FBBoO"
    hashText plainDigest "pé" salt = .ok hashed
      ∧ verify plainDigest (some "pé") (some hashed) = true
      ∧ verify plainDigest (some "pé") (some "not-a-hash") = false := by
  intro salt hashed
  have read : Salt.ofText? salt = some ⟨.y, 4, List.replicate 16 0⟩ := by decide +kernel
  have hashes : hashText plainDigest "pé" salt = .ok hashed :=
    hashText_eq_ok_iff.2 ⟨by decide +kernel, _, read, by decide +kernel⟩
  obtain ⟨verifies, -, malformed, -⟩ := verifies_iff_hashed plainDigest
  exact ⟨hashes, verifies _ _ _ (by decide) hashes, malformed _ _ (by decide +kernel)⟩

end Bcrypt

end Turnstile

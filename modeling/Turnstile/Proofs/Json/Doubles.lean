import Turnstile.Proofs.Binary64.Rounding
import Turnstile.Proofs.Json.Record

set_option autoImplicit false

/-! # The doubles of a value that was read

A value that was read from a text holds no doubles but those that a number token stands for
(`Json.doublesAre_of_read`): the reader puts values together and changes none. A double of such a
token is not larger than the format allows, so its integer part has few digits
(`Json.short_of_read`). -/

namespace Turnstile

namespace Json

variable {P : Binary64 → Prop}

/-! ## Values, and readings of them -/

/-- All doubles in a value have a property. -/
inductive DoublesAre (P : Binary64 → Prop) : Json → Prop where
  | null : DoublesAre P .null
  | bool (b : Bool) : DoublesAre P (.bool b)
  | int (n : Int) : DoublesAre P (.int n)
  | text (s : String) : DoublesAre P (.text s)
  | double {x : Binary64} (h : P x) : DoublesAre P (.double x)
  | list {items : List Json} (h : ∀ v ∈ items, DoublesAre P v) : DoublesAre P (.list items)
  | object {members : List (String × Json)} (h : ∀ m ∈ members, DoublesAre P m.2) :
      DoublesAre P (.object members)

/-- So do those in an open container. -/
def Frame.DoublesAre (P : Binary64 → Prop) : Frame → Prop
  | .list items => ∀ v ∈ items, v.DoublesAre P
  | .object members _ => ∀ m ∈ members, m.2.DoublesAre P

/-- So do those read up to a place. -/
def Reading.DoublesAre (P : Binary64 → Prop) : Reading → Prop
  | .atValue frames _ => ∀ f ∈ frames, f.DoublesAre P
  | .atKey frames members _ | .atColon frames members _ =>
    (∀ f ∈ frames, f.DoublesAre P) ∧ ∀ m ∈ members, m.2.DoublesAre P
  | .afterValue frames v => (∀ f ∈ frames, f.DoublesAre P) ∧ v.DoublesAre P

/-- So does that of a token. -/
def Token.DoublesAre (P : Binary64 → Prop) : Token → Prop
  | .scalar v => v.DoublesAre P
  | _ => True

/-- A member that is set adds no other value. -/
theorem forall_mem_setMember {Q : Json → Prop} {key : String} {value : Json}
    {members : List (String × Json)} (new : Q value) (old : ∀ m ∈ members, Q m.2) :
    ∀ m ∈ setMember key value members, Q m.2 := by
  induction members with
  | nil => simpa [setMember] using new
  | cons first rest ih =>
    obtain ⟨k, v⟩ := first
    rw [List.forall_mem_cons] at old
    rw [setMember]
    split
    · exact List.forall_mem_cons.2 ⟨new, old.2⟩
    · exact List.forall_mem_cons.2 ⟨old.1, ih old.2⟩

/-! ## One token at a time -/

namespace Reading

theorem doublesAre_takeValue {frames : List Frame} {closable : Bool} {t : Token} {r : Reading}
    (outer : ∀ f ∈ frames, f.DoublesAre P) (token : t.DoublesAre P)
    (h : takeValue frames closable t = .ok r) : r.DoublesAre P := by
  unfold takeValue at h
  split at h
  · cases h
    exact ⟨outer, token⟩
  · cases h
    exact ⟨outer, .text _⟩
  · cases h
  · split at h
    · cases h
      exact List.forall_mem_cons.2 ⟨by simp [Frame.DoublesAre], outer⟩
    · cases h
  · split at h
    · cases h
      exact ⟨outer, by simp⟩
    · cases h
  · split at h
    · cases h
      exact ⟨(List.forall_mem_cons.1 outer).2, .list (by simp)⟩
    · cases h
  · cases h

theorem doublesAre_takeKey {frames : List Frame} {members : List (String × Json)} {closable : Bool}
    {t : Token} {r : Reading} (outer : ∀ f ∈ frames, f.DoublesAre P)
    (inner : ∀ m ∈ members, m.2.DoublesAre P) (h : takeKey frames members closable t = .ok r) :
    r.DoublesAre P := by
  unfold takeKey at h
  split at h
  · cases h
    exact ⟨outer, inner⟩
  · split at h
    · cases h
      exact ⟨outer, .object inner⟩
    · cases h
  · cases h

theorem doublesAre_takeAfter {frames : List Frame} {v : Json} {t : Token} {r : Reading}
    (outer : ∀ f ∈ frames, f.DoublesAre P) (value : v.DoublesAre P)
    (h : takeAfter frames v t = .ok r) : r.DoublesAre P := by
  unfold takeAfter at h
  split at h
  · obtain ⟨items, outer⟩ := List.forall_mem_cons.1 outer
    cases h
    exact List.forall_mem_cons.2 ⟨List.forall_mem_cons.2 ⟨value, items⟩, outer⟩
  · obtain ⟨items, outer⟩ := List.forall_mem_cons.1 outer
    cases h
    refine ⟨outer, .list fun w hw => ?_⟩
    exact (List.forall_mem_cons.2 ⟨value, items⟩ : ∀ w ∈ _ :: _, _) w (List.mem_reverse.1 hw)
  · obtain ⟨members, outer⟩ := List.forall_mem_cons.1 outer
    cases h
    exact ⟨outer, forall_mem_setMember value members⟩
  · obtain ⟨members, outer⟩ := List.forall_mem_cons.1 outer
    cases h
    exact ⟨outer, .object (forall_mem_setMember value members)⟩
  · cases h

/-- To take a token keeps the property. -/
theorem DoublesAre.take {r r' : Reading} {t : Token} (fine : r.DoublesAre P)
    (token : t.DoublesAre P) (h : r.take t = .ok r') : r'.DoublesAre P := by
  cases r with
  | atValue frames closable => exact doublesAre_takeValue fine token h
  | atKey frames members closable => exact doublesAre_takeKey fine.1 fine.2 h
  | atColon frames members key =>
    cases t with
    | colon =>
      cases h
      exact List.forall_mem_cons.2 ⟨fine.2, fine.1⟩
    | _ => cases h
  | afterValue frames v => exact doublesAre_takeAfter fine.1 fine.2 h

/-- So does to take one token after the other. -/
theorem DoublesAre.takeAll {tokens : List Token} {r r' : Reading} (fine : r.DoublesAre P)
    (each : ∀ t ∈ tokens, t.DoublesAre P) (h : tokens.foldlM Reading.take r = .ok r') :
    r'.DoublesAre P := by
  induction tokens generalizing r with
  | nil =>
    cases h
    exact fine
  | cons t rest ih =>
    rw [List.forall_mem_cons] at each
    rw [List.foldlM_cons] at h
    cases next : r.take t with
    | ok mid =>
      rw [next] at h
      exact ih (fine.take each.1 next) each.2 h
    | error e =>
      rw [next] at h
      cases h

end Reading

/-! ## Tokens -/

/-- The doubles that a token may stand for have the property. -/
structure FromTokens (P : Binary64 → Prop) : Prop where
  nan : P .nan
  infinite : ∀ negative, P (.infinite negative)
  decimal : ∀ negative digits exponent, P (.ofDecimal negative digits exponent)

theorem doublesAre_scanNumber (from_ : FromTokens P) {negative : Bool} {cs after : List Char}
    {t : Token} (h : scanNumber negative cs = some (t, after)) : t.DoublesAre P := by
  obtain ⟨⟨whole, rest⟩, -, same⟩ := Option.map_eq_some_iff.1 h
  cases same
  unfold numberToken
  split
  · split
    · trivial
    · exact .int _
  · exact .double (from_.decimal _ _ _)

theorem doublesAre_first (from_ : FromTokens P) {cs after : List Char} {t : Token}
    (h : Token.first cs = some (t, after)) : t.DoublesAre P := by
  revert h
  fun_cases Token.first cs with
  | case7 rest =>
    intro h
    obtain ⟨_, -, same⟩ := Option.map_eq_some_iff.1 h
    cases same
    trivial
  | case8 => rintro ⟨⟩; exact .null
  | case9 | case10 => rintro ⟨⟩; exact .bool _
  | case11 => rintro ⟨⟩; exact .double from_.nan
  | case12 | case13 => rintro ⟨⟩; exact .double (from_.infinite _)
  | case14 | case15 => exact doublesAre_scanNumber from_
  | _ => rintro ⟨⟩; trivial

theorem doublesAre_all (from_ : FromTokens P) (cs : List Char) :
    ∀ t ∈ Token.all cs, t.DoublesAre P := by
  fun_induction Token.all cs with
  | case1 cs ended => simp
  | case2 cs t after next shorter ih =>
    refine List.forall_mem_cons.2 ⟨?_, ih⟩
    unfold Token.next at next
    split at next
    · cases next
    · next c rest head =>
      cases first : Token.first (c :: rest) with
      | none =>
        rw [first] at next
        cases next
        trivial
      | some found =>
        obtain ⟨u, tail⟩ := found
        rw [first] at next
        cases next
        exact doublesAre_first from_ first

/-- **What is read holds the doubles of its tokens.** -/
theorem doublesAre_of_read (from_ : FromTokens P) {text : String} {value : Json}
    (h : read text = .ok value) : value.DoublesAre P := by
  rw [read] at h
  cases all : (Token.all text.toList).foldlM Reading.take Reading.start with
  | error e =>
    rw [all] at h
    cases h
  | ok last =>
    have begins : Reading.start.DoublesAre P := by simp [Reading.start, Reading.DoublesAre]
    have fine := Reading.DoublesAre.takeAll begins (doublesAre_all from_ _) all
    rw [all] at h
    cases last with
    | afterValue frames v =>
      cases frames with
      | nil =>
        cases h
        exact fine.2
      | cons => cases h
    | _ => cases h

/-- A property that what tokens stand for has, all doubles have that follow from it. -/
theorem FromTokens.mono {Q : Binary64 → Prop} (from_ : FromTokens P) (mono : ∀ x, P x → Q x) :
    FromTokens Q where
  nan := mono _ from_.nan
  infinite negative := mono _ (from_.infinite negative)
  decimal negative digits exponent := mono _ (from_.decimal negative digits exponent)

/-! ## Sizes -/

/-- The double of a decimal is not beyond the format's largest number. -/
theorem inFormat_ofDecimal (negative : Bool) (digits : Nat) (exponent : Int) :
    (Binary64.ofDecimal negative digits exponent).InFormat := by
  have den : 0 < (scaleDownTen digits 1 (-exponent)).2 := by
    unfold scaleDownTen
    split <;> simp
  rw [Binary64.ofDecimal]
  split
  · exact .zero _
  · split
    · exact .infinite _
    · exact .nearest _ _ den

theorem fromTokens_inFormat : FromTokens Binary64.InFormat :=
  ⟨.nan, .infinite, inFormat_ofDecimal⟩

/-- The integer part of a double can be written. -/
def Short (x : Binary64) : Prop :=
  ∀ n, x.truncate? = some n → digitCount n.natAbs ≤ maxIntegerDigits

/-- **What is read holds no double whose integer part is too long to be written.** -/
theorem short_of_read {text : String} {value : Json} (h : read text = .ok value) :
    value.DoublesAre Short :=
  doublesAre_of_read (fromTokens_inFormat.mono fun _ format _ truncates =>
    digitCount_le_of_inRange (format.inRange truncates)) h

end Json

end Turnstile

import Turnstile.Proofs.Text.LowerCase

set_option autoImplicit false

/-! # Respelling in lower case

Some characters of a text give way to the lower-case forms that they have by themselves. What is
cased stays cased, what is passed over stays passed over, and no lower-case form has another one
(`cased_simple`, `passedOver_simple`, `simple_simple`), so that all characters find themselves in
the same context as before. Only a capital sigma at the end of a word has one form by itself and
another in the text. So the text as a whole has the lower-case form that it had exactly if no such
sigma was respelled (`lowerCase_respell_iff`). -/

namespace Turnstile

/-! ## Sets as numbers -/

namespace CharSet

/-- A set as a number: the bits of a boundary's share are the code numbers below it. -/
def bits (s : CharSet) : Nat := s.boundaries.foldr (fun b m => (1 <<< b - 1) ^^^ m) 0

theorem testBit_bits (boundaries : List Nat) (n : Nat) :
    (bits ⟨boundaries⟩).testBit n = decide (boundaries.countP (n < ·) % 2 = 1) := by
  induction boundaries with
  | nil => simp [bits]
  | cons b rest ih =>
    have shares : bits ⟨b :: rest⟩ = (1 <<< b - 1) ^^^ bits ⟨rest⟩ := rfl
    rw [shares, Nat.testBit_xor, ih, Nat.one_shiftLeft, Nat.testBit_two_pow_sub_one]
    by_cases below : n < b
    · rw [List.countP_cons_of_pos (by simpa using below), decide_eq_true below]
      rcases Nat.mod_two_eq_zero_or_one (rest.countP (n < ·)) with even | odd
      · simp [even, Nat.add_mod]
      · simp [odd, Nat.add_mod]
    · rw [List.countP_cons_of_neg (by simpa using below), decide_eq_false below, Bool.false_xor]

/-- The set ends: each stretch of it has its second boundary. -/
def isBounded (s : CharSet) : Bool := Nat.beq (s.boundaries.length % 2) 0

/-- A bounded set has the characters whose bits are set. -/
theorem contains_eq_testBit {s : CharSet} (bounded : s.isBounded) (c : Char) :
    s.contains c = s.bits.testBit c.toNat := by
  have even := Nat.eq_of_beq_eq_true bounded
  have both := List.length_eq_countP_add_countP (l := s.boundaries) (· ≤ c.toNat)
  have above : s.boundaries.countP (fun b => ¬decide (b ≤ c.toNat))
      = s.boundaries.countP (c.toNat < ·) :=
    List.countP_congr fun b _ => by simp
  rw [above] at both
  rw [contains, testBit_bits s.boundaries]
  congr 1
  apply propext
  omega

end CharSet

namespace LowerCase

/-! ## Runs of letters -/

/-- Every `step`-th bit is set, `count` times. -/
def comb (step : Nat) : (count : Nat) → Nat
  | 0 => 0
  | count + 1 => (comb step count <<< step) ||| 1

theorem testBit_comb (step : Nat) {count k : Nat} (lt : k < count) :
    (comb step count).testBit (k * step) = true := by
  induction count generalizing k with
  | zero => cases lt
  | succ count ih =>
    rw [comb, Nat.testBit_or, Nat.testBit_shiftLeft]
    cases k with
    | zero => simp
    | succ k => simp [Nat.succ_mul, ih (Nat.lt_of_succ_lt_succ lt)]

namespace Run

variable {r : Run} {n m : Nat}

/-- The run has the letter of code number `n`. -/
def Has (r : Run) (n : Nat) : Prop := r.first ≤ n ∧ n ≤ r.last ∧ (n - r.first) % r.step = 0

/-- The letters of the run, from the first one on. -/
def letters (r : Run) : Nat := comb r.step ((r.last - r.first) / r.step + 1)

theorem Has.testBit_letters (has : r.Has n) : r.letters.testBit (n - r.first) = true := by
  obtain ⟨first, last, steps⟩ := has
  rw [← Nat.div_mul_cancel (Nat.dvd_of_mod_eq_zero steps)]
  exact testBit_comb _ (Nat.lt_succ_of_le (Nat.div_le_div_right (by omega)))

/-- A number without bits at the letters has none at any of them. -/
theorem Has.testBit_of_land (has : r.Has n) {x : Nat} (h : x &&& r.letters = 0) :
    x.testBit (n - r.first) = false := by
  have none : (x &&& r.letters).testBit (n - r.first) = false := by rw [h, Nat.zero_testBit]
  rwa [Nat.testBit_and, has.testBit_letters, Bool.and_true] at none

/-- The code number of the lower-case form of the letter `n` of a run. -/
def image (r : Run) (n : Nat) : Nat := ((n : Int) + r.offset).toNat

theorem Has.image_eq (has : r.Has n) (positive : 0 ≤ (r.first : Int) + r.offset) :
    r.image r.first + (n - r.first) = r.image n := by
  obtain ⟨first, -, -⟩ := has
  unfold image
  omega

theorem Has.image_between (has : r.Has n) :
    r.image r.first ≤ r.image n ∧ r.image n ≤ r.image r.last := by
  obtain ⟨first, last, -⟩ := has
  unfold image
  omega

/-- The bits of the letters are those of their lower-case forms. -/
def keeps (m : Nat) (r : Run) : Bool :=
  Nat.beq (((m >>> r.first) ^^^ (m >>> r.image r.first)) &&& r.letters) 0

theorem testBit_of_keeps (h : r.keeps m) (has : r.Has n)
    (positive : 0 ≤ (r.first : Int) + r.offset) : m.testBit (r.image n) = m.testBit n := by
  have same := has.testBit_of_land (Nat.eq_of_beq_eq_true h)
  have letter : r.first + (n - r.first) = n := Nat.add_sub_cancel' has.1
  rw [Nat.testBit_xor, Nat.testBit_shiftRight, Nat.testBit_shiftRight, letter,
    has.image_eq positive] at same
  exact (by simpa using same : m.testBit n = m.testBit (r.image n)).symm

/-- The bits of the lower-case forms are not set. -/
def clears (m : Nat) (r : Run) : Bool := Nat.beq ((m >>> r.image r.first) &&& r.letters) 0

theorem testBit_of_clears (h : r.clears m) (has : r.Has n)
    (positive : 0 ≤ (r.first : Int) + r.offset) : m.testBit (r.image n) = false := by
  have none := has.testBit_of_land (Nat.eq_of_beq_eq_true h)
  rwa [Nat.testBit_shiftRight, has.image_eq positive] at none

/-- The lower-case forms are characters. -/
def leadsToChars (r : Run) : Bool :=
  (r.image r.last).blt 0xD800 || Nat.blt 0xDFFF (r.image r.first) && (r.image r.last).blt 0x110000

theorem isValidChar_image (h : r.leadsToChars) (has : r.Has n) : (r.image n).isValidChar := by
  have between := has.image_between
  simp only [leadsToChars, Bool.or_eq_true, Bool.and_eq_true, Nat.blt_eq] at h
  unfold Nat.isValidChar
  omega

end Run

/-- All letters of some runs, and the dotted capital. -/
def capitals (runs : List Run) : Nat :=
  runs.foldr (fun r m => (r.letters <<< r.first) ||| m) (1 <<< 'İ'.toNat)

theorem testBit_capitals {runs : List Run} {r : Run} (hr : r ∈ runs) {n : Nat} (has : r.Has n) :
    (capitals runs).testBit n = true := by
  induction runs with
  | nil => cases hr
  | cons r' rest ih =>
    rw [capitals, List.foldr_cons, Nat.testBit_or, Bool.or_eq_true, Nat.testBit_shiftLeft]
    rcases List.mem_cons.1 hr with rfl | hr
    · exact .inl (by simp [has.1, has.testBit_letters])
    · exact .inr (ih hr)

theorem testBit_capitals_dotted (runs : List Run) : (capitals runs).testBit 'İ'.toNat = true := by
  induction runs with
  | nil => decide
  | cons r rest ih =>
    rw [capitals, List.foldr_cons, Nat.testBit_or, Bool.or_eq_true]
    exact .inr ih

/-- What the tables are looked through for: the sets are bounded, and the lower-case forms of the
    letters of a run are characters, in the same classes as the letters, and no capitals. A run is
    compared as a whole, by the bits of the sets. -/
theorem tables_sound : (cased.isBounded && passedOver.isBounded && runs.all fun r =>
    r.leadsToChars && r.keeps cased.bits && r.keeps passedOver.bits && r.clears (capitals runs))
      = true := by
  decide +kernel

theorem sets_bounded : cased.isBounded ∧ passedOver.isBounded :=
  Bool.and_eq_true_iff.1 (Bool.and_eq_true_iff.1 tables_sound).1

/-- What holds of the code numbers of a letter and its lower-case form. -/
structure IsLowered (letter form : Nat) : Prop where
  valid : form.isValidChar
  keepsCased : cased.bits.testBit form = cased.bits.testBit letter
  keepsPassedOver : passedOver.bits.testBit form = passedOver.bits.testBit letter
  noCapital : (capitals runs).testBit form = false

theorem isLowered_image {r : Run} (hr : r ∈ runs) {n : Nat} (has : r.Has n) :
    IsLowered n (r.image n) := by
  have sound := List.all_eq_true.1 (Bool.and_eq_true_iff.1 tables_sound).2 r hr
  simp only [Bool.and_eq_true] at sound
  obtain ⟨⟨⟨chars, cased⟩, passedOver⟩, clears⟩ := sound
  have colon : (0 : Int) ≤ ':'.toNat := by decide
  have positive := Int.le_of_lt (Int.lt_of_le_of_lt colon (runs_after_colon r hr).2)
  exact ⟨Run.isValidChar_image chars has, Run.testBit_of_keeps cased has positive,
    Run.testBit_of_keeps passedOver has positive, Run.testBit_of_clears clears has positive⟩

/-- A character has its lower-case form by the run that has it, or is its own. -/
theorem simple_cases (c : Char) :
    ((∀ r ∈ runs, ¬r.Has c.toNat) ∧ simple c = c)
      ∨ ∃ r ∈ runs, r.Has c.toNat ∧ (simple c).toNat = r.image c.toNat := by
  simp only [simple]
  split
  · next r found =>
    have hr := List.mem_of_find?_eq_some found
    have has : r.Has c.toNat := by
      simpa [Run.Has, and_assoc] using List.find?_some found
    refine .inr ⟨r, hr, has, ?_⟩
    show (Char.ofNat (r.image c.toNat)).toNat = _
    rw [Char.ofNat, dif_pos (isLowered_image hr has).valid]
    rfl
  · next none =>
    refine .inl ⟨fun r hr has => ?_, rfl⟩
    have not := List.find?_eq_none.1 none r hr
    simp [Run.Has, and_assoc] at not has
    omega

/-- A lower-case form is cased where the letter is. -/
theorem cased_simple (c : Char) : cased.contains (simple c) = cased.contains c := by
  rcases simple_cases c with ⟨-, own⟩ | ⟨r, hr, has, image⟩
  · rw [own]
  · have bits := CharSet.contains_eq_testBit sets_bounded.1
    rw [bits, bits, image, (isLowered_image hr has).keepsCased]

/-- A lower-case form is passed over where the letter is. -/
theorem passedOver_simple (c : Char) : passedOver.contains (simple c) = passedOver.contains c := by
  rcases simple_cases c with ⟨-, own⟩ | ⟨r, hr, has, image⟩
  · rw [own]
  · have bits := CharSet.contains_eq_testBit sets_bounded.2
    rw [bits, bits, image, (isLowered_image hr has).keepsPassedOver]

/-- A lower-case form is its own lower-case form. -/
theorem simple_simple (c : Char) : simple (simple c) = simple c := by
  rcases simple_cases c with ⟨-, own⟩ | ⟨r, hr, has, image⟩
  · rw [own, own]
  · rcases simple_cases (simple c) with ⟨-, own⟩ | ⟨r', hr', has', -⟩
    · exact own
    · have capital := testBit_capitals hr' has'
      rw [image, (isLowered_image hr has).noCapital] at capital
      cases capital

/-- Only the dotted capital has itself for its form. -/
theorem simple_eq_dotted {c : Char} (h : simple c = 'İ') : c = 'İ' := by
  rcases simple_cases c with ⟨-, own⟩ | ⟨r, hr, has, image⟩
  · rw [← own, h]
  · have capital := testBit_capitals_dotted runs
    rw [← h, image, (isLowered_image hr has).noCapital] at capital
    cases capital

/-- The tables at the letters that take a form of their own: the sigma is lowered like others by
    itself, and the dotted capital counts as the two characters that it gives way to do. -/
theorem special_letters : simple 'Σ' = 'σ' ∧ simple 'i' = 'i' ∧ simple '\u0307' = '\u0307'
    ∧ cased.contains 'İ' = true ∧ passedOver.contains 'İ' = false
    ∧ cased.contains 'i' = true ∧ passedOver.contains 'i' = false
    ∧ passedOver.contains '\u0307' = true := by
  decide +kernel

theorem simple_ne_sigma (c : Char) : simple c ≠ 'Σ' := by
  intro h
  have again := simple_simple c
  rw [h, special_letters.1] at again
  exact absurd again (by decide)

/-! ## A character by itself -/

/-- The lower-case form of a text of one character. -/
def alone (c : Char) : List Char := (lowerCase (String.singleton c)).toList

theorem alone_eq_charIn (c : Char) : alone c = charIn [] c [] := by
  simp [alone, lowerCase, textAfter]

theorem alone_dotted : alone 'İ' = ['i', '\u0307'] := by
  simp [alone_eq_charIn, charIn]

theorem alone_eq {c : Char} (h : c ≠ 'İ') : alone c = [simple c] := by
  simp [alone_eq_charIn, charIn, meetsCased, h]

theorem meetsCased_cons (c : Char) (cs : List Char) :
    meetsCased (c :: cs) = if passedOver.contains c then meetsCased cs else cased.contains c := by
  by_cases passed : passedOver.contains c
  · rw [if_pos passed, meetsCased, meetsCased, List.dropWhile_cons_of_pos passed]
  · rw [if_neg passed, meetsCased, List.dropWhile_cons_of_neg passed]

/-- What follows meets a cased letter ahead of it where the character gives way to its form. -/
theorem meetsCased_alone (c : Char) (cs : List Char) :
    meetsCased (alone c ++ cs) = meetsCased (c :: cs) := by
  by_cases dotted : c = 'İ'
  · subst dotted
    simp [alone_dotted, meetsCased_cons, special_letters]
  · rw [alone_eq dotted, List.singleton_append, meetsCased_cons, meetsCased_cons, cased_simple,
      passedOver_simple]

/-- What came before meets a cased letter behind it. The dot that İ leaves is passed over. -/
theorem meetsCased_reverse_alone (c : Char) (cs : List Char) :
    meetsCased ((alone c).reverse ++ cs) = meetsCased (c :: cs) := by
  by_cases dotted : c = 'İ'
  · subst dotted
    simp [alone_dotted, meetsCased_cons, special_letters]
  · have single := meetsCased_alone c cs
    rw [alone_eq dotted] at single ⊢
    exact single

/-- A capital sigma between these characters ends a word. -/
def EndsWord (before : List Char) (c : Char) (after : List Char) : Prop :=
  c = 'Σ' ∧ meetsCased before = true ∧ meetsCased after = false

instance (before : List Char) (c : Char) (after : List Char) :
    Decidable (EndsWord before c after) :=
  inferInstanceAs (Decidable (_ ∧ _ ∧ _))

/-- Only at the end of a word has a character another form than by itself. -/
theorem charIn_eq (before : List Char) (c : Char) (after : List Char) :
    charIn before c after = if EndsWord before c after then ['ς'] else alone c := by
  have empty : meetsCased [] = false := rfl
  simp only [charIn, alone_eq_charIn, EndsWord, empty, Bool.and_eq_true, Bool.not_eq_true',
    decide_eq_true_eq, and_assoc, Bool.false_eq_true, and_false, false_and, if_false]

theorem charIn_eq_alone_iff {before : List Char} {c : Char} {after : List Char} :
    alone c = charIn before c after ↔ ¬EndsWord before c after := by
  rw [charIn_eq]
  split
  · next ends =>
    refine iff_of_false ?_ (not_not_intro ends)
    rw [ends.1, alone_eq (by decide), special_letters.1]
    decide
  · next within => exact iff_of_true rfl within

theorem length_charIn (before : List Char) (c : Char) (after : List Char) :
    (alone c).length = (charIn before c after).length := by
  rw [charIn_eq]
  split
  · next ends =>
    rw [ends.1, alone_eq (by decide)]
    rfl
  · rfl

theorem charIn_simple (before : List Char) (c : Char) (after : List Char) (h : c ≠ 'İ') :
    charIn before (simple c) after = [simple c] := by
  have within : ¬EndsWord before (simple c) after := fun ends => simple_ne_sigma c ends.1
  rw [charIn_eq, if_neg within, alone_eq fun dotted => h (simple_eq_dotted dotted), simple_simple]

/-- The form of a character is its own lower-case form everywhere. -/
theorem textAfter_alone_append (before : List Char) (c : Char) (cs : List Char) :
    textAfter before (alone c ++ cs) = alone c ++ textAfter ((alone c).reverse ++ before) cs := by
  by_cases dotted : c = 'İ'
  · obtain ⟨-, i, dot, -⟩ := special_letters
    have iIn := charIn_simple before 'i' ('\u0307' :: cs) (by decide)
    have dotIn := charIn_simple ('i' :: before) '\u0307' cs (by decide)
    rw [i] at iIn
    rw [dot] at dotIn
    simp [dotted, alone_dotted, textAfter, iIn, dotIn]
  · rw [alone_eq dotted, List.singleton_append, textAfter, charIn_simple _ _ _ dotted]
    rfl

/-! ## A text -/

/-- The characters at some places give way to their lower-case forms by themselves. -/
def respellChars (places : Nat → Bool) : List Char → List Char
  | [] => []
  | c :: rest =>
    (if places 0 then alone c else [c]) ++ respellChars (fun i => places (i + 1)) rest

theorem meetsCased_respellChars (places : Nat → Bool) (cs : List Char) :
    meetsCased (respellChars places cs) = meetsCased cs := by
  induction cs generalizing places with
  | nil => rfl
  | cons c rest ih =>
    rw [respellChars]
    split
    · rw [meetsCased_alone, meetsCased_cons, meetsCased_cons, ih]
    · rw [List.singleton_append, meetsCased_cons, meetsCased_cons, ih]

/-- The character at place `i` is a capital sigma that ends a word. -/
def EndsWordAt (before cs : List Char) (i : Nat) : Prop :=
  ∃ c, cs[i]? = some c ∧ EndsWord ((cs.take i).reverse ++ before) c (cs.drop (i + 1))

theorem endsWordAt_zero {before : List Char} {c : Char} {rest : List Char} :
    EndsWordAt before (c :: rest) 0 ↔ EndsWord before c rest := by
  simp [EndsWordAt]

theorem endsWordAt_succ {before : List Char} {c : Char} {rest : List Char} {i : Nat} :
    EndsWordAt before (c :: rest) (i + 1) ↔ EndsWordAt (c :: before) rest i := by
  simp [EndsWordAt]

theorem charIn_congr {before before' after after' : List Char} (c : Char)
    (behind : meetsCased before = meetsCased before')
    (ahead : meetsCased after = meetsCased after') :
    charIn before c after = charIn before' c after' := by
  rw [charIn, charIn, behind, ahead]

/-- The respelled characters come to what the others do, as long as what came before them counts
    as the same, exactly if none that was respelled ends a word. -/
theorem textAfter_respellChars_iff {before before' : List Char}
    (behind : meetsCased before' = meetsCased before) (places : Nat → Bool) (cs : List Char) :
    textAfter before' (respellChars places cs) = textAfter before cs
      ↔ ∀ i, places i → ¬EndsWordAt before cs i := by
  induction cs generalizing before before' places with
  | nil => simp [respellChars, textAfter, EndsWordAt]
  | cons c rest ih =>
    have split : (∀ i, places i → ¬EndsWordAt before (c :: rest) i)
        ↔ (places 0 → ¬EndsWord before c rest)
          ∧ ∀ i, places (i + 1) → ¬EndsWordAt (c :: before) rest i := by
      rw [← Nat.and_forall_add_one, endsWordAt_zero]
      simp only [endsWordAt_succ]
    rw [split, respellChars, textAfter]
    -- What came before need only meet a cased letter as before: İ leaves two characters there.
    by_cases here : places 0
    · have behind' : meetsCased ((alone c).reverse ++ before') = meetsCased (c :: before) := by
        rw [meetsCased_reverse_alone, meetsCased_cons, meetsCased_cons, behind]
      rw [if_pos here, textAfter_alone_append,
        List.append_eq_append_iff_of_size_eq_left (length_charIn before c rest),
        charIn_eq_alone_iff, ih behind']
      simp [here]
    · have behind' : meetsCased (c :: before') = meetsCased (c :: before) := by
        rw [meetsCased_cons, meetsCased_cons, behind]
      rw [if_neg here, List.singleton_append, textAfter,
        charIn_congr c behind (meetsCased_respellChars _ rest), List.append_cancel_left_eq,
        ih behind']
      simp [here]

end LowerCase

open LowerCase

/-- Some characters of a text give way to their lower-case forms by themselves. -/
def respell (places : Nat → Bool) (s : String) : String :=
  String.ofList (respellChars places s.toList)

/-- A capital sigma at the end of a word stands at place `i` of a text. -/
def FinalSigma (s : String) (i : Nat) : Prop := EndsWordAt [] s.toList i

/-- **What respelling leaves of the lower-case form.** A text of which some characters were
    respelled has the lower-case form that it had exactly if none of these was a capital sigma at the
    end of a word. -/
theorem lowerCase_respell_iff (places : Nat → Bool) (s : String) :
    lowerCase (respell places s) = lowerCase s ↔ ∀ i, places i → ¬FinalSigma s i := by
  have chars := textAfter_respellChars_iff (rfl : meetsCased [] = meetsCased []) places s.toList
  simpa only [lowerCase, respell, FinalSigma, String.toList_ofList, String.ofList_inj] using chars

end Turnstile

import Turnstile.Proofs.Limiter.Keys
import Turnstile.Proofs.Text.Respelling

set_option autoImplicit false

/-! # Pairs spelled in another case

What the limiter does for a pair goes by its two keys, which are in lower case. So characters of the
world and of the subject can give way to their own lower-case forms, and the pair keeps its window:
each call on the limiter is the one that it was. This holds for all characters but one. A capital
sigma at the end of a word goes into the keys as another letter than its form by itself, and a pair
in which one gave way has a window of its own (`respelled_pair`). -/

namespace Turnstile

open LowerCase

/-! ## Colons -/

theorem LowerCase.count_colon_respellChars (places : Nat → Bool) (cs : List Char) :
    (respellChars places cs).count ':' = cs.count ':' := by
  induction cs generalizing places with
  | nil => rfl
  | cons c rest ih =>
    have here : (if places 0 then alone c else [c]).count ':' = [c].count ':' := by
      split
      · rw [alone_eq_charIn, count_colon_charIn]
      · rfl
    rw [respellChars, List.count_append, ih, here, ← List.count_append, List.singleton_append]

/-- To respell a text neither adds nor removes a colon. -/
theorem count_colon_respell (places : Nat → Bool) (s : String) :
    (respell places s).toList.count ':' = s.toList.count ':' := by
  rw [respell, String.toList_ofList, count_colon_respellChars]

theorem count_colon_pairSuffix (world subject : String) :
    (pairSuffix world subject).toList.count ':'
      = world.toList.count ':' + 1 + subject.toList.count ':' := by
  have colon : (":".toList).count ':' = 1 := rfl
  simp only [pairSuffix, String.toList_append, List.count_append, count_colon_lowerCase, colon]

/-! ## Calls -/

/-- The calls on the limiter for one pair are those for the other. -/
def SameCalls (world subject world' subject' : String) : Prop :=
  ∀ (instances : Instances) (i : Nat),
    (Call.record i world' subject').routine instances
        = (Call.record i world subject).routine instances
      ∧ (Call.isLimited i world' subject').routine instances
        = (Call.isLimited i world subject).routine instances
      ∧ (Call.clear world' subject').routine instances
        = (Call.clear world subject).routine instances

/-- No call for the first pair changes the record or the lock of the second. -/
def LeavesAlone (world subject world' subject' : String) : Prop :=
  ∀ (instances : Instances) (call : Call) (p : Site), call.site? instances = some p →
    p.world = world → p.subject = subject → ∀ (s : System) (t : Int),
      (Step.run instances s (.call call)).1.store.get? t (attemptsKey world' subject')
          = s.store.get? t (attemptsKey world' subject')
        ∧ (Step.run instances s (.call call)).1.store.get? t (lockKey world' subject')
          = s.store.get? t (lockKey world' subject')

/-- All that a call on the limiter takes from its pair are the keys. -/
theorem sameCalls_of_keys_eq {world subject world' subject' : String}
    (record : attemptsKey world' subject' = attemptsKey world subject)
    (lock : lockKey world' subject' = lockKey world subject) :
    SameCalls world subject world' subject' := by
  intro instances i
  simp only [Call.routine, Limiter.recordFailure, Limiter.isLimited, Limiter.clear, record, lock,
    and_self]

theorem leavesAlone_of_not_sharesKeys {world subject world' subject' : String}
    (colons : (pairSuffix world subject).toList.count ':'
      = (pairSuffix world' subject').toList.count ':')
    (apart : ¬SharesKeys world subject world' subject') :
    LeavesAlone world subject world' subject' := by
  rintro instances call p at_ rfl rfl s t
  constructor
  · refine Call.get?_run at_ s ?_ (attemptsKey_ne_lockKey_of_count_eq colons.symm) t
    exact fun same => apart (attemptsKey_eq_iff.1 same.symm)
  · refine Call.get?_run at_ s (attemptsKey_ne_lockKey_of_count_eq colons).symm ?_ t
    exact fun same => apart (lockKey_eq_iff.1 same.symm)

/-! ## Respelled pairs -/

theorem FinalSigma.mem {s : String} {i : Nat} (h : FinalSigma s i) : 'Σ' ∈ s.toList := by
  obtain ⟨c, found, rfl, -⟩ := h
  exact List.mem_of_getElem? found

/-- Some of the characters that give way in a pair are capital sigmas at the end of a word. -/
def RespellsFinalSigma (inWorld inSubject : Nat → Bool) (world subject : String) : Prop :=
  (∃ i, inWorld i ∧ FinalSigma world i) ∨ ∃ i, inSubject i ∧ FinalSigma subject i

theorem sharesKeys_respell_iff {inWorld inSubject : Nat → Bool} {world subject : String} :
    SharesKeys world subject (respell inWorld world) (respell inSubject subject)
      ↔ ¬RespellsFinalSigma inWorld inSubject world subject := by
  rw [sharesKeys_iff_of_count_eq (count_colon_respell inWorld world).symm,
    eq_comm (a := lowerCase world), eq_comm (a := lowerCase subject), lowerCase_respell_iff,
    lowerCase_respell_iff]
  simp only [RespellsFinalSigma, not_or, not_exists, not_and]

/-- **What respelling a pair does to its window.** Let characters of the world and of the subject
    give way to their lower-case forms by themselves. Unless one of them was a capital sigma at the
    end of a word, the pair has the keys that it had, and each call on the limiter does what it did.
    If one was, it has another record and another lock, and neither spelling's calls change those of
    the other, whatever comes in the way of their commands. -/
theorem respelled_pair (inWorld inSubject : Nat → Bool) (world subject : String) :
    let world' := respell inWorld world
    let subject' := respell inSubject subject
    (¬RespellsFinalSigma inWorld inSubject world subject →
        attemptsKey world' subject' = attemptsKey world subject
          ∧ lockKey world' subject' = lockKey world subject
          ∧ SameCalls world subject world' subject')
      ∧ (RespellsFinalSigma inWorld inSubject world subject →
        attemptsKey world' subject' ≠ attemptsKey world subject
          ∧ lockKey world' subject' ≠ lockKey world subject
          ∧ LeavesAlone world subject world' subject'
          ∧ LeavesAlone world' subject' world subject) := by
  intro world' subject'
  have shares : SharesKeys world subject world' subject'
      ↔ ¬RespellsFinalSigma inWorld inSubject world subject := sharesKeys_respell_iff
  have colons : (pairSuffix world subject).toList.count ':'
      = (pairSuffix world' subject').toList.count ':' := by
    simp only [count_colon_pairSuffix, world', subject', count_colon_respell]
  have records := attemptsKey_eq_iff.trans shares
  have locks := lockKey_eq_iff.trans shares
  constructor
  · intro spared
    have record := (records.2 spared).symm
    have lock := (locks.2 spared).symm
    exact ⟨record, lock, sameCalls_of_keys_eq record lock⟩
  · intro respelled
    have apart : ¬SharesKeys world subject world' subject' := fun h => shares.1 h respelled
    have apart' : ¬SharesKeys world' subject' world subject :=
      fun h => apart (attemptsKey_eq_iff.1 (attemptsKey_eq_iff.2 h).symm)
    exact ⟨fun same => records.1 same.symm respelled, fun same => locks.1 same.symm respelled,
      leavesAlone_of_not_sharesKeys colons apart, leavesAlone_of_not_sharesKeys colons.symm apart'⟩

/-- The capitals of `MyWorld` give way without a trace in the keys. The word in Greek has another
    window once its last letter gave way. -/
theorem respelled_pair_of_names :
    respell (fun i => i == 0 || i == 2) "MyWorld" = "myworld"
      ∧ attemptsKey "myworld" "10.0.0.1" = attemptsKey "MyWorld" "10.0.0.1"
      ∧ SameCalls "MyWorld" "10.0.0.1" "myworld" "10.0.0.1"
      ∧ respell (fun i => i == 1) "ΑΣ" = "Ασ"
      ∧ attemptsKey "Ασ" "10.0.0.1" ≠ attemptsKey "ΑΣ" "10.0.0.1"
      ∧ LeavesAlone "ΑΣ" "10.0.0.1" "Ασ" "10.0.0.1" := by
  have latin : respell (fun i => i == 0 || i == 2) "MyWorld" = "myworld" := by decide +kernel
  have greek : respell (fun i => i == 1) "ΑΣ" = "Ασ" := by decide +kernel
  have address : respell (fun _ => false) "10.0.0.1" = "10.0.0.1" := by decide +kernel
  have spared : ¬RespellsFinalSigma (fun i => i == 0 || i == 2) (fun _ => false) "MyWorld"
      "10.0.0.1" := by
    rintro (⟨i, -, sigma⟩ | ⟨i, never, -⟩)
    · exact absurd sigma.mem (by decide)
    · cases never
  have lost : RespellsFinalSigma (fun i => i == 1) (fun _ => false) "ΑΣ" "10.0.0.1" :=
    .inl ⟨1, rfl, 'Σ', rfl, rfl, by decide +kernel, by decide +kernel⟩
  obtain ⟨record, -, calls⟩ := (respelled_pair _ _ _ _).1 spared
  obtain ⟨other, -, alone, -⟩ := (respelled_pair _ _ _ _).2 lost
  rw [latin, address] at record calls
  rw [greek, address] at other alone
  exact ⟨latin, record, calls, greek, other, alone⟩

/-- Under a cap of one, an attempt on the world `ΑΣ` is not seen when its capital sigma gives way to
    `σ`, the form that it has by itself. -/
theorem fresh_window :
    let s := (Step.run single {} (.call (.record 0 "ΑΣ" "10.0.0.1"))).1
    let looked := fun world => (Step.run single s (.call (.isLimited 0 world "10.0.0.1"))).2.flag?
    lowerCase "Σ" = "σ" ∧ respell (fun i => i == 1) "ΑΣ" = "Ασ"
      ∧ attemptsKey "Ασ" "10.0.0.1" ≠ attemptsKey "ΑΣ" "10.0.0.1"
      ∧ lockKey "Ασ" "10.0.0.1" ≠ lockKey "ΑΣ" "10.0.0.1"
      ∧ looked "ΑΣ" = some true ∧ looked "Ασ" = some false := by
  decide +kernel

end Turnstile

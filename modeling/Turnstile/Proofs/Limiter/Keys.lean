import Turnstile.Proofs.Limiter.Exclusion
import Turnstile.Proofs.Limiter.Outcomes
import Turnstile.Proofs.Text.LowerCase

set_option autoImplicit false

/-! # Which pairs share a key

A key joins the world and the subject by a colon, and neither is kept from holding colons of its own.
So two pairs have one key not only where they agree up to case: the world of one may go on into what
the other takes for its subject (`joined_eq_iff`), and the record of a world by the name of `lock` may
lie where another pair's lock does. These are all the ways (`keys_eq_iff`), and a call leaves the
record and the lock of any other pair as they are. -/

namespace Turnstile

/-! ## Texts joined by a colon -/

/-- The first of two texts joined by a colon goes on, in the first of two others, past the colon,
    into what these have for their second. -/
def RunsOn (a b a' b' : String) : Prop := ∃ t, a' = a ++ ":" ++ t ∧ b = t ++ ":" ++ b'

/-- Texts joined by a colon are equal where both parts are, or where one runs on into the other. -/
theorem joined_eq_iff {a b a' b' : String} :
    a ++ ":" ++ b = a' ++ ":" ++ b'
      ↔ (a = a' ∧ b = b') ∨ RunsOn a b a' b' ∨ RunsOn a' b' a b := by
  constructor
  · intro h
    have chars : a.toList ++ ':' :: b.toList = a'.toList ++ ':' :: b'.toList := by
      simpa [String.ext_iff] using h
    rcases List.append_eq_append_iff.1 chars with ⟨more, ha, hb⟩ | ⟨more, ha, hb⟩
    · cases more with
      | nil => exact .inl (by simpa [String.ext_iff, eq_comm] using And.intro ha hb)
      | cons c t =>
        obtain ⟨rfl, hb⟩ := List.cons.inj hb
        exact .inr (.inl ⟨String.ofList t, by simpa [String.ext_iff] using And.intro ha hb⟩)
    · cases more with
      | nil => exact .inl (by simpa [String.ext_iff, eq_comm] using And.intro ha hb)
      | cons c t =>
        obtain ⟨rfl, hb⟩ := List.cons.inj hb
        exact .inr (.inr ⟨String.ofList t, by simpa [String.ext_iff] using And.intro ha hb⟩)
  · rintro (⟨rfl, rfl⟩ | ⟨t, rfl, rfl⟩ | ⟨t, rfl, rfl⟩)
    · rfl
    · simp only [String.append_assoc]
    · simp only [String.append_assoc]

/-- Where one text runs on into another it has fewer colons. -/
theorem RunsOn.count_colon_lt {a b a' b' : String} (runs : RunsOn a b a' b') :
    a.toList.count ':' < a'.toList.count ':' := by
  obtain ⟨t, rfl, -⟩ := runs
  have colon : (":".toList).count ':' = 1 := rfl
  rw [String.toList_append, String.toList_append, List.count_append, List.count_append, colon]
  omega

/-! ## Keys -/

/-- The pairs agree up to case, or the world of one runs on into the subject of the other. -/
def SharesKeys (world subject world' subject' : String) : Prop :=
  (lowerCase world = lowerCase world' ∧ lowerCase subject = lowerCase subject')
    ∨ RunsOn (lowerCase world) (lowerCase subject) (lowerCase world') (lowerCase subject')
    ∨ RunsOn (lowerCase world') (lowerCase subject') (lowerCase world) (lowerCase subject)

/-- The first pair's record lies where the second pair's lock does: the first world is called `lock`,
    or begins with that and a colon, and what follows is the second pair. -/
def LiesOnLock (world subject world' subject' : String) : Prop :=
  (lowerCase world = "lock" ∧ lowerCase subject = pairSuffix world' subject')
    ∨ RunsOn "lock" (pairSuffix world' subject') (lowerCase world) (lowerCase subject)

theorem pairSuffix_eq_iff {world subject world' subject' : String} :
    pairSuffix world subject = pairSuffix world' subject'
      ↔ SharesKeys world subject world' subject' :=
  joined_eq_iff

theorem attemptsKey_eq_iff {world subject world' subject' : String} :
    attemptsKey world subject = attemptsKey world' subject'
      ↔ SharesKeys world subject world' subject' :=
  (String.append_right_inj _).trans pairSuffix_eq_iff

theorem lockKey_eq_iff {world subject world' subject' : String} :
    lockKey world subject = lockKey world' subject' ↔ SharesKeys world subject world' subject' :=
  (String.append_right_inj _).trans pairSuffix_eq_iff

theorem attemptsKey_eq_lockKey_iff {world subject world' subject' : String} :
    attemptsKey world subject = lockKey world' subject'
      ↔ LiesOnLock world subject world' subject' := by
  have after : attemptsKey world subject = lockKey world' subject'
      ↔ pairSuffix world subject = "lock:" ++ pairSuffix world' subject' := by
    rw [lockKey_eq]
    exact String.append_right_inj _
  have joined : "lock:" = "lock" ++ ":" := by rfl
  unfold LiesOnLock
  rw [after, joined, pairSuffix]
  generalize pairSuffix world' subject' = suffix'
  rw [joined_eq_iff]
  constructor
  · rintro (same | runs | runs)
    · exact .inl same
    · -- There is no colon in the word for the world to run on into.
      have fewer : _ < ("lock".toList).count ':' := runs.count_colon_lt
      exact absurd fewer (Nat.not_lt_zero _)
    · exact .inr runs
  · rintro (same | runs)
    · exact .inl same
    · exact .inr (.inr runs)

/-- Worlds with equally many colons do not run on into each other. -/
theorem sharesKeys_iff_of_count_eq {world subject world' subject' : String}
    (colons : world.toList.count ':' = world'.toList.count ':') :
    SharesKeys world subject world' subject'
      ↔ lowerCase world = lowerCase world' ∧ lowerCase subject = lowerCase subject' := by
  rw [← count_colon_lowerCase world, ← count_colon_lowerCase world'] at colons
  constructor
  · rintro (same | runs | runs)
    · exact same
    · exact absurd colons (Nat.ne_of_lt runs.count_colon_lt)
    · exact absurd colons (Nat.ne_of_gt runs.count_colon_lt)
  · exact .inl

/-! ## What a call leaves alone -/

/-- The commands of a call are about its pair's record or lock. -/
theorem Site.Step.key?_eq {p : Site} {stage stage' : Stage} {e : Event}
    (step : p.Step stage e stage') {c : Command} (issues : e.effect = .command c) :
    c.key? = some p.key ∨ c.key? = some p.lock := by
  cases step with
  | look | drop | judge | write =>
    cases issues
    exact .inl rfl
  | contend | release =>
    cases issues
    exact .inr rfl
  | _ => cases issues

/-- A process that runs alone leaves the entries as they are that its commands are not about. -/
theorem Proc.Obeys.get?_run {α S : Type} {P : Protocol S} {task : Nat} {ends : α → S → Prop}
    {k : String} (apart : ∀ stage e stage', P.step stage e stage' →
      ∀ c, e.effect = .command c → c.key? ≠ some k)
    {p : Proc α} {stage : S} (hp : p.Obeys P task ends stage) (s : System) (t : Int) :
    (p.run task s).1.store.get? t k = s.store.get? t k := by
  induction p generalizing stage s with
  | done a => rfl
  | perform e next ih =>
    rw [Proc.run]
    generalize hs : (e.issue task s).system.wait (e.issue task s).delay = s'
    have issued : s'.store = s.store := by
      have world := congrArg World.store (World.of_issue task s [] e)
      rw [← hs]
      exact world
    obtain ⟨stage', step, rest⟩ := hp s'.elapsed (e.issue task s).action
      (e.perform task (e.issue task s).action s').2
    have performed := congrArg World.store
      (World.of_perform s' [] task (e.issue task s).action e (P.own _ _ _ step))
    refine (ih _ rest _).trans ?_
    rw [← issued]
    refine Eq.trans (congrArg (Store.get? · t k) performed) ?_
    exact World.get?_add_of_ne (.of s' []) _ k (apart _ _ _ step) t

/-- **What a call leaves alone.** Whatever comes in the way of its commands, a call on the limiter or
    the guard leaves all entries as they are but those under the keys of its own pair. -/
theorem Call.get?_run {instances : Instances} {call : Call} {p : Site}
    (at_ : call.site? instances = some p) (s : System) {k : String} (record : k ≠ p.key)
    (lock : k ≠ p.lock) (t : Int) :
    (Step.run instances s (.call call)).1.store.get? t k = s.store.get? t k := by
  refine Proc.Obeys.get?_run ?_ (call.obeys at_ 0) s t
  intro stage e stage' step c issues about
  rcases step.key?_eq issues with own | own <;> rw [about] at own
  · exact record (Option.some.inj own)
  · exact lock (Option.some.inj own)

/-- **Which pairs share a key.** Two pairs have one record, and then one lock, where they agree up to
    case or the world of one runs on into the other's subject, which worlds with equally many colons
    never do; and the record of one lies on the other's lock where its world begins with `lock` and
    what follows is the other pair. Where it is neither, no call on one pair changes the record or
    the lock of the other, whatever comes in the way of its commands. -/
theorem keys_eq_iff (world subject world' subject' : String) :
    (attemptsKey world subject = attemptsKey world' subject'
        ↔ SharesKeys world subject world' subject')
      ∧ (lockKey world subject = lockKey world' subject'
        ↔ SharesKeys world subject world' subject')
      ∧ (attemptsKey world subject = lockKey world' subject'
        ↔ LiesOnLock world subject world' subject')
      ∧ (world.toList.count ':' = world'.toList.count ':' →
        (SharesKeys world subject world' subject'
          ↔ lowerCase world = lowerCase world' ∧ lowerCase subject = lowerCase subject'))
      ∧ ∀ (instances : Instances) (call : Call) (p : Site), call.site? instances = some p →
        p.world = world → p.subject = subject → ¬SharesKeys world subject world' subject' →
        ∀ (s : System) (t : Int),
          (¬LiesOnLock world' subject' world subject →
            (Step.run instances s (.call call)).1.store.get? t (attemptsKey world' subject')
              = s.store.get? t (attemptsKey world' subject'))
          ∧ (¬LiesOnLock world subject world' subject' →
            (Step.run instances s (.call call)).1.store.get? t (lockKey world' subject')
              = s.store.get? t (lockKey world' subject')) := by
  refine ⟨attemptsKey_eq_iff, lockKey_eq_iff, attemptsKey_eq_lockKey_iff,
    sharesKeys_iff_of_count_eq, ?_⟩
  rintro instances call p at_ rfl rfl other s t
  constructor
  · intro aside
    refine Call.get?_run at_ s ?_ ?_ t
    · exact fun same => other (attemptsKey_eq_iff.1 same.symm)
    · exact fun same => aside (attemptsKey_eq_lockKey_iff.1 same)
  · intro aside
    refine Call.get?_run at_ s ?_ ?_ t
    · exact fun same => aside (attemptsKey_eq_lockKey_iff.1 same.symm)
    · exact fun same => other (lockKey_eq_iff.1 same.symm)

/-- One attempt was recorded, on the world called `us`. -/
def oneAttempt : System := (Step.run single {} (.call (.record 0 "us" "10.0.0.1"))).1

/-- An attempt on another world leaves the record of the same subject as it is. -/
theorem keys_eq_iff_of_twoWorlds :
    attemptsKey "eu" "10.0.0.1" ≠ attemptsKey "us" "10.0.0.1"
      ∧ (oneAttempt.store.get? 0 (attemptsKey "us" "10.0.0.1")).isSome
      ∧ (Step.run single oneAttempt (.call (.record 0 "eu" "10.0.0.1"))).1.store.get? 0
          (attemptsKey "us" "10.0.0.1") = oneAttempt.store.get? 0 (attemptsKey "us" "10.0.0.1")
    := by
  obtain ⟨record, -, -, colons, leaves⟩ := keys_eq_iff "eu" "10.0.0.1" "us" "10.0.0.1"
  have other : ¬SharesKeys "eu" "10.0.0.1" "us" "10.0.0.1" := by
    rw [colons (by decide)]
    decide +kernel
  have aside : ¬LiesOnLock "us" "10.0.0.1" "eu" "10.0.0.1" := by
    rw [← attemptsKey_eq_lockKey_iff]
    decide +kernel
  refine ⟨fun same => other (record.1 same), by decide +kernel, ?_⟩
  exact (leaves single (.record 0 "eu" "10.0.0.1") _ rfl rfl rfl other oneAttempt 0).1 aside

/-- Under a cap of one, an attempt on one world turns away a subject on another that never failed,
    and the record of a world called `lock` lies where the lock of another pair does. -/
theorem keys_shared :
    let s := (Step.run single {} (.call (.record 0 "eu:a" "10.0.0.1"))).1
    let looked := Step.run single s (.call (.isLimited 0 "eu" "a:10.0.0.1"))
    lowerCase "eu:a" ≠ lowerCase "eu" ∧ lowerCase "10.0.0.1" ≠ lowerCase "a:10.0.0.1"
      ∧ attemptsKey "eu:a" "10.0.0.1" = attemptsKey "eu" "a:10.0.0.1"
      ∧ lockKey "eu:a" "10.0.0.1" = lockKey "eu" "a:10.0.0.1"
      ∧ looked.2.flag? = some true
      ∧ attemptsKey "lock" "eu:10.0.0.1" = lockKey "eu" "10.0.0.1" := by
  decide +kernel

end Turnstile

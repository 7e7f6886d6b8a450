import Mathlib.Data.List.Pairwise
import Turnstile.Proofs.Lock.Fair
import Turnstile.Proofs.Lock.Ownership

set_option autoImplicit false

/-! # Whose token a lock holds

Tokens are drawn, each once. In a run of tasks that are fair about a lock, a token comes to stand
under the lock's key only by a try of the task that drew it, before any of its tries was granted
(`Lock.Rightful`). So what the lock holds is traced to the try that put it there, since which it was
not released (`Ledger.found`), however the tasks take turns, whatever fails, and whatever other
entries come and go under the key. -/

namespace Turnstile

namespace Lock

/-- A try put a token under a key: its task was told so, or was told of a failure although the try
    took effect. -/
def Stores (key : String) (token : Nat) (ttl : Int) (g : Event) : Prop :=
  g.effect = .command (.setIfAbsent key (tokenText token) ttl)
    ∧ (g.grant? key = some (tokenText token, ttl) ∨ g.action.failsLate)

/-- An entry is traced to the try that put it, since which it was not released. -/
def Traced (key : String) (token : Nat) (entry : Entry) (h : List Event) : Prop :=
  ∃ before g after ttl, h = before ++ g :: after ∧ Stores key token ttl g
    ∧ entry.expiry = some (g.time + ttl)
    ∧ ∀ r ∈ after, r.release? key = some (tokenText token) → r.action.performs = false

/-- The event puts a token under a key. -/
def PutsToken (key : String) (token : Nat) (e : Event) : Prop :=
  ∃ c, e.effect = .command c ∧ Puts key token c

/-- What holds of an event that puts a token, given what was done before: it is a try, of the task
    that drew the token, and no try as the token was granted yet. -/
structure Rightful (key : String) (before : List Event) (e : Event) (token : Nat) : Prop where
  tries : ∃ ttl, e.effect = .command (.setIfAbsent key (tokenText token) ttl)
  drawn : ∃ x ∈ before, x.task = e.task ∧ x.draws? = some token
  pending : ∀ g ∈ before, ∀ ttl, g.grant? key ≠ some (tokenText token, ttl)

/-- Two events do not draw the same token. -/
def Apart (x y : Event) : Prop := ∀ token, x.draws? = some token → y.draws? ≠ some token

instance : Std.Symm Apart where
  symm _ _ apart token drawsy drawsx := apart token drawsx drawsy

/-- What is known of tokens in a run of fair tasks that started after the first few were drawn. -/
structure Ledger (key : String) (first : Nat) (v : World) (stages : Nat → Option Nat) : Prop where
  later : first ≤ v.tokens
  drawn : ∀ x ∈ v.history, ∀ token, x.draws? = some token → first < token ∧ token ≤ v.tokens
  apart : v.history.Pairwise Apart
  rightful : Each (fun before e => ∀ token, PutsToken key token e → Rightful key before e token)
    v.history
  trying : ∀ i token, stages i = some token →
    (∃ x ∈ v.history, x.task = i ∧ x.draws? = some token)
      ∧ ∀ g ∈ v.history, ∀ ttl, g.grant? key ≠ some (tokenText token, ttl)
  found : ∀ token, first < token → ∀ entry, v.store.get? v.now key = some entry →
    entry.value = tokenText token → Traced key token entry v.history

variable {key : String}

/-! ## What puts a token -/

/-- A granted try puts its token. -/
theorem puts_of_grant? {g : Event} {token : Nat} {ttl : Int}
    (grant : g.grant? key = some (tokenText token, ttl)) : PutsToken key token g := by
  obtain ⟨reply, -, same⟩ := Event.eq_of_grant? grant
  rw [same]
  exact ⟨_, rfl, rfl, rfl⟩

/-- What draws a token puts none. -/
theorem not_puts_of_draws? {e : Event} {n token : Nat} (draws : e.draws? = some n) :
    ¬PutsToken key token e := by
  rintro ⟨c, effect, -⟩
  unfold Event.draws? at draws
  split at draws
  · cases effect
  · cases draws

/-- A fair task puts a token only to acquire the lock, as the token that is its stage. -/
theorem Fair.puts {st st' : Option Nat} {e : Event} {token : Nat} (fair : Fair key st e st')
    (puts : PutsToken key token e) : st = some token
      ∧ (st' = if (e.grant? key).isSome then none else some token)
      ∧ ∃ ttl, e.effect = .command (.setIfAbsent key (tokenText token) ttl) := by
  cases fair with
  | draw => exact absurd puts (not_puts_of_draws? rfl)
  | @contend n ttl _ effect _ after =>
    obtain ⟨c, same, puts⟩ := puts
    cases effect.symm.trans same
    obtain rfl : n = token := tokenText_injective puts.2
    exact ⟨rfl, after, ttl, effect⟩
  | other own apart =>
    obtain ⟨c, effect, puts⟩ := puts
    exact absurd puts (apart c effect token)

/-- After what is fair a task may try as the token that it draws, or as its stage before, unless it
    was granted the lock as that. -/
theorem Fair.stage {st st' : Option Nat} {e : Event} {token : Nat} (fair : Fair key st e st')
    (trying : st' = some token) :
    e.draws? = some token ∨ st = some token ∧ ∀ ttl, e.grant? key ≠ some (tokenText token, ttl) := by
  cases fair with
  | draw =>
    cases trying
    exact .inl rfl
  | @contend n ttl _ effect _ after =>
    rw [after] at trying
    split at trying
    · cases trying
    · next refused =>
      cases trying
      refine .inr ⟨rfl, fun ttl grant => refused ?_⟩
      rw [grant]
      rfl
  | other own apart =>
    refine .inr ⟨trying, fun ttl grant => ?_⟩
    obtain ⟨c, effect, puts⟩ := puts_of_grant? grant
    exact apart c effect token puts

/-- What is drawn is the next token. -/
theorem eq_of_draws? {v : World} {e : Event} (admits : v.Admits e) {token : Nat}
    (draws : e.draws? = some token) : token = v.tokens + 1 ∧ (v.add e).tokens = v.tokens + 1 := by
  unfold Event.draws? at draws
  split at draws
  · next time task action n =>
    cases draws
    exact ⟨admits.answer, rfl⟩
  · cases draws

/-! ## Tracing an entry -/

theorem Traced.append {token : Nat} {entry : Entry} {h : List Event}
    (traced : Traced key token entry h) {e : Event}
    (idle : e.release? key = some (tokenText token) → e.action.performs = false) :
    Traced key token entry (h ++ [e]) := by
  obtain ⟨before, g, after, ttl, rfl, stores, expiry, kept⟩ := traced
  refine ⟨before, g, after ++ [e], ttl, by simp, stores, expiry, ?_⟩
  exact List.forall_mem_append.2 ⟨kept, List.forall_mem_singleton.2 idle⟩

/-- A try that takes effect and finds the lock free puts its token. -/
theorem stores_of_performs {v : World} {e : Event} (admits : v.Admits e) {token : Nat} {ttl : Int}
    (effect : e.effect = .command (.setIfAbsent key (tokenText token) ttl))
    (performs : e.action.performs)
    (put : (Command.perform v.now v.store (.setIfAbsent key (tokenText token) ttl)).2
      = .ok (.bool true)) : Stores key token ttl e := by
  refine ⟨effect, ?_⟩
  obtain ⟨time, task, _, action, answer⟩ := e
  cases effect
  cases action with
  | perform =>
    have told : answer = .ok (.bool true) := admits.answer.trans put
    rw [told]
    exact .inl (if_pos ⟨rfl, rfl⟩)
  | fail cls message afterEffect =>
    exact .inr performs
  | reply value => cases performs

/-- A token that is found after a fair event is traced, if those found before it are. -/
theorem traced_add {v : World} {e : Event} {st st' : Option Nat} {token : Nat} {entry : Entry}
    (admits : v.Admits e) (fair : Fair key st e st')
    (traced : v.store.get? v.now key = some entry → Traced key token entry v.history)
    (found : (v.add e).store.get? v.now key = some entry) (mine : entry.value = tokenText token) :
    Traced key token entry (v.add e).history := by
  by_cases command : ∃ c, e.effect = .command c
  · obtain ⟨c, effect⟩ := command
    have after : (e.action.apply v.now v.store c).1.get? v.now key = some entry := by
      rw [World.add, effect] at found
      exact found
    cases performs : e.action.performs with
    | false =>
      rw [FaultAction.apply_of_not_performs performs] at after
      exact (traced after).append fun _ => performs
    | true =>
      rw [FaultAction.apply_of_performs performs] at after
      rcases Command.get?_perform_cases after with before | ⟨ttl, rfl⟩ | ⟨ttl, rfl, expiry, put⟩
      · refine (traced before).append fun release => ?_
        cases effect.symm.trans (Event.effect_of_release? release)
        exact absurd mine (Command.value_ne_of_deleteIfEqual after)
      · have puts : PutsToken key token e := ⟨_, effect, rfl, mine⟩
        obtain ⟨-, -, _, tries⟩ := fair.puts puts
        cases effect.symm.trans tries
      · rw [mine] at effect put
        refine ⟨v.history, e, [], ttl, rfl, stores_of_performs admits effect performs put, ?_, by simp⟩
        rw [expiry, admits.time]
  · have same : (v.add e).store = v.store := by
      rw [World.add]
      split
      · next c effect => exact absurd ⟨c, effect⟩ command
      · rfl
    rw [same] at found
    exact (traced found).append fun release =>
      absurd ⟨_, Event.effect_of_release? release⟩ command

/-! ## What is kept -/

namespace Ledger

variable {first : Nat} {v : World} {stages : Nat → Option Nat}

/-- A token is drawn by one task. -/
theorem task_eq (ledger : Ledger key first v stages) {x y : Event} (hx : x ∈ v.history)
    (hy : y ∈ v.history) {token : Nat} (drawsx : x.draws? = some token)
    (drawsy : y.draws? = some token) : x = y := by
  by_contra differ
  exact ledger.apart.forall hx hy differ token drawsx drawsy

/-- As a token that is still to be drawn nothing was granted. -/
theorem not_granted (ledger : Ledger key first v stages) {token : Nat} (new : v.tokens < token)
    {g : Event} (hg : g ∈ v.history) (ttl : Int) :
    g.grant? key ≠ some (tokenText token, ttl) := by
  intro grant
  obtain ⟨before, after, split⟩ := List.append_of_mem hg
  obtain ⟨x, hx, -, draws⟩ :=
    (ledger.rightful before g after split token (puts_of_grant? grant)).drawn
  have old := (ledger.drawn x (by simp [split, hx]) token draws).2
  omega

/-- What a fair task does keeps the ledger. -/
theorem event (ledger : Ledger key first v stages) {e : Event} {st : Option Nat}
    (admits : v.Admits e) (fair : Fair key (stages e.task) e st) :
    Ledger key first (v.add e) (Function.update stages e.task st) where
  later := Nat.le_trans ledger.later (v.tokens_le_add e)
  drawn := by
    refine List.forall_mem_append.2 ⟨fun x hx token draws => ?_,
      List.forall_mem_singleton.2 fun token draws => ?_⟩
    · obtain ⟨new, old⟩ := ledger.drawn x hx token draws
      exact ⟨new, Nat.le_trans old (v.tokens_le_add e)⟩
    · obtain ⟨rfl, tokens⟩ := eq_of_draws? admits draws
      rw [tokens]
      exact ⟨Nat.lt_succ_of_le ledger.later, Nat.le_refl _⟩
  apart := by
    refine List.pairwise_append.2 ⟨ledger.apart, List.pairwise_singleton _ _, ?_⟩
    intro x hx y hy token drawsx drawsy
    cases List.mem_singleton.1 hy
    have old := (ledger.drawn x hx token drawsx).2
    have new := (eq_of_draws? admits drawsy).1
    omega
  rightful := by
    refine ledger.rightful.snoc fun token puts => ?_
    obtain ⟨stage, -, tries⟩ := fair.puts puts
    obtain ⟨drawn, pending⟩ := ledger.trying e.task token stage
    exact ⟨tries, drawn, pending⟩
  trying i token trying := by
    by_cases mine : i = e.task
    · subst mine
      rw [Function.update_self] at trying
      rcases fair.stage trying with draws | ⟨before, refused⟩
      · -- The token is new: as it nothing was granted so far.
        refine ⟨⟨e, by simp, rfl, draws⟩, ?_⟩
        refine List.forall_mem_append.2 ⟨fun g hg ttl => ?_,
          List.forall_mem_singleton.2 fun ttl grant =>
            not_puts_of_draws? draws (puts_of_grant? grant)⟩
        have new := (eq_of_draws? admits draws).1
        exact ledger.not_granted (by omega) hg ttl
      · obtain ⟨⟨x, hx, drawn⟩, pending⟩ := ledger.trying _ token before
        exact ⟨⟨x, List.mem_append_left _ hx, drawn⟩,
          List.forall_mem_append.2 ⟨pending, List.forall_mem_singleton.2 refused⟩⟩
    · rw [Function.update_of_ne mine] at trying
      obtain ⟨⟨x, hx, task, draws⟩, pending⟩ := ledger.trying i token trying
      refine ⟨⟨x, List.mem_append_left _ hx, task, draws⟩,
        List.forall_mem_append.2 ⟨pending, List.forall_mem_singleton.2 fun ttl grant => mine ?_⟩⟩
      -- Whoever is granted the lock as a token has drawn it.
      obtain ⟨stage, -, -⟩ := fair.puts (puts_of_grant? grant)
      obtain ⟨⟨y, hy, task', draws'⟩, -⟩ := ledger.trying _ token stage
      rw [← task, ← task', ledger.task_eq hx hy draws draws']
  found token new entry found mine :=
    traced_add admits fair (fun before => ledger.found token new entry before mine) found mine

/-- As time passes entries only run out. -/
theorem pass (ledger : Ledger key first v stages) {t : Int} (later : v.now ≤ t) :
    Ledger key first (v.atTime t) stages where
  later := ledger.later
  drawn := ledger.drawn
  apart := ledger.apart
  rightful := ledger.rightful
  trying := ledger.trying
  found token new entry found mine :=
    ledger.found token new entry (Store.get?_earlier later found) mine

end Ledger

/-! ## Runs of fair tasks -/

/-- The surroundings take back neither time nor tokens, and put no token under a key. -/
def Calm {α : Type} (setting : Setting α) (key : String) : Prop :=
  ∀ s s', setting.outside s s' → s.elapsed ≤ s'.elapsed ∧ s.tokens ≤ s'.tokens
    ∧ ∀ entry token, s'.store.get? s'.elapsed key = some entry → entry.value = tokenText token →
      s.store.get? s.elapsed key = some entry

/-- Tasks that are fair about the lock under a key, where commands meet with anything. -/
def fairRegime {α : Type} (setting : Setting α) (key : String) : Regime α (Option Nat) where
  setting := setting
  protocol _ := fair key
  ends _ _ _ := True
  actions _ := True
  vacant := none

theorem Ledger.keeps {α : Type} {setting : Setting α} {first : Nat} (calm : Calm setting key) :
    (fairRegime setting key).Keeps (Ledger key first) where
  perform := trivial
  event _ _ _ _ ledger admits _ fair := ledger.event admits fair
  pass _ _ _ _ ledger _ later _ := ledger.pass later
  outside := by
    rintro s s' h stages ledger - change
    obtain ⟨later, tokens, same⟩ := calm s s' change
    refine ⟨⟨Nat.le_trans ledger.later tokens, fun x hx token draws => ?_, ledger.apart,
      ledger.rightful, ledger.trying, fun token new entry found mine => ?_⟩, fun _ _ => trivial⟩
    · obtain ⟨new, old⟩ := ledger.drawn x hx token draws
      exact ⟨new, Nat.le_trans old tokens⟩
    · exact ledger.found token new entry (same entry token found mine) mine

/-- A run of tasks that are fair about a lock, in calm surroundings. When they start, the lock holds
    no token that is still to be drawn. -/
structure FairRun {α : Type} (key : String) (setting : Setting α) (processes : List (Int × Proc α))
    (s : System) (h : List Event) (d : Schedule α) : Prop where
  calm : Calm setting key
  fairly : ∀ i delay (p : Proc α), processes[i]? = some (delay, p) →
    p.Obeys (fair key) i (fun _ _ => True) none
  unknown : ∀ token, s.tokens < token → ∀ entry, s.store.get? s.elapsed key = some entry →
    entry.value ≠ tokenText token
  run : (Schedule.start processes s).Run setting h d

/-- **The ledger of a run.** In a run of tasks that are fair about a lock what the lock holds is
    traced, and tokens are put there only as is rightful. -/
theorem FairRun.exists_ledger {α : Type} {setting : Setting α} {processes : List (Int × Proc α)}
    {s : System} {h : List Event} {d : Schedule α} (fair : FairRun key setting processes s h d) :
    ∃ stages, Ledger key s.tokens (.of d.system h) stages := by
  have start : Ledger key s.tokens (.of s []) fun _ => none := by
    refine ⟨Nat.le_refl _, fun x hx => (nomatch hx), .nil, Each.nil _, fun i token h => (nomatch h),
      fun token new entry found mine => absurd mine (fair.unknown token new entry found)⟩
  have rest : (fairRegime setting key).AtRest (Schedule.start processes s) fun _ => none := by
    refine ⟨fun i t ht => ?_, fun _ _ => rfl⟩
    simp only [Schedule.start, List.getElem?_mapIdx, Option.map_eq_some_iff] at ht
    obtain ⟨⟨delay, p⟩, hi, rfl⟩ := ht
    exact ⟨rfl, trivial, fun time action answer =>
      ⟨none, .quiet trivial (by simp), fair.fairly i delay p hi⟩⟩
  obtain ⟨stages, ledger, -, -⟩ :=
    fair.run.invariant (Ledger.keeps fair.calm) start rest fun _ _ => trivial
  exact ⟨stages, ledger⟩

end Lock

end Turnstile

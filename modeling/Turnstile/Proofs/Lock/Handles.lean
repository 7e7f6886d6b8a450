import Turnstile.Proofs.Lock.Calls

set_option autoImplicit false

/-! # Handles of a lock

Tasks make calls one after the other, and leave the entry under a key to those that acquire or
release the lock there. Then all of `Lock.Owned` is kept, at any pace, in any order, and whatever
failures come in the way of commands (`Lock.owned`).

The invariant tells of the tokens of those that try for the lock (`Lock.Tokens`) and of what the
tasks know of it (`Lock.Guarded`). -/

namespace Turnstile

namespace Lock

variable {key : String} {st st' : Holder} {e : Event}

/-! ## What a move tells -/

theorem Move.isOwn (move : Move key st e st') {c : Command} (effect : e.effect = .command c)
    (about : c.key? = some key) : IsOwn key c := by
  cases move with
  | aside aside =>
    rw [effect] at aside
    rcases aside with other | rfl
    · exact absurd about other
    · exact .get
  | contend =>
    cases effect
    exact .acquire _ _
  | release =>
    cases effect
    exact .release _
  | _ => cases effect

theorem Move.kept (move : Move key st e st') {handle : LockHandle}
    (kept : e.kept? key = some handle) : handle ∈ st.made := by
  obtain ⟨⟨name, effect⟩, same⟩ := Event.effect_of_kept? kept
  cases move with
  | aside aside =>
    rw [effect] at aside
    exact absurd same aside
  | keep resting made =>
    cases effect
    exact made
  | _ => cases effect

theorem Move.released (move : Move key st e st') {token : String}
    (release : e.release? key = some token) :
    ∃ handle, handle.key = key ∧ handle.token = token ∧ st.Knows handle := by
  have effect := Event.effect_of_release? release
  cases move with
  | aside aside =>
    rw [effect] at aside
    rcases aside with other | other
    · exact absurd rfl other
    · cases other
  | release resting same known =>
    cases effect
    exact ⟨_, same, rfl, known⟩
  | _ => cases effect

/-- The lock is granted to a task that tries for it. -/
theorem Move.granted (move : Move key st e st') {token : String} {ttl : Int}
    (grant : e.grant? key = some (token, ttl)) :
    ∃ n, st.grip = .trying n ∧ token = tokenText n
      ∧ st' = { st with grip := .granted n ttl e.time } := by
  obtain ⟨reply, truthy, same⟩ := Event.eq_of_grant? grant
  rw [same] at move
  generalize e.time = time, e.task = task, e.action = action at move
  cases move with
  | aside aside =>
    rcases aside with other | other
    · exact absurd rfl other
    · cases other
  | contend trying => exact ⟨_, trying, rfl, by rw [Holder.tried, if_pos truthy]⟩

/-- Who tries for the lock as a token did so before, or has drawn the token. -/
theorem Move.trying (move : Move key st e st') {n : Nat} (trying : st'.grip = .trying n) :
    st.grip = .trying n
      ∨ ∃ time task action, e = ⟨time, task, .freshToken, action, n⟩ := by
  cases move with
  | aside | find | keep | release => exact .inl trying
  | draw =>
    cases trying
    exact .inr ⟨_, _, _, rfl⟩
  | contend =>
    left
    unfold Holder.tried at trying
    split at trying
    · split at trying
      · cases trying
      · exact trying
    · exact trying
  | stamp =>
    unfold Holder.stamped at trying
    split at trying <;> cases trying

/-- Who is on the way to a handle was so before, or has just been granted the lock. -/
theorem Move.grip_granted (move : Move key st e st') {n : Nat} {ttl since : Int}
    (granted : st'.grip = .granted n ttl since) :
    st.grip = .granted n ttl since
      ∨ since = e.time ∧ e.grant? key = some (tokenText n, ttl) := by
  cases move with
  | aside | find | keep | release => exact .inl granted
  | draw => cases granted
  | contend trying =>
    unfold Holder.tried at granted
    split at granted
    · next reply =>
      split at granted
      · next truthy =>
        cases granted
        exact .inr ⟨rfl, by simp [Event.grant?, truthy]⟩
      · rw [trying] at granted
        cases granted
    · rw [trying] at granted
      cases granted
  | stamp =>
    unfold Holder.stamped at granted
    split at granted <;> cases granted

/-- A handle that a task has made it had made before, or the monotonic clock was just read for it.
    -/
theorem Move.made (move : Move key st e st') {handle : LockHandle} (made : handle ∈ st'.made) :
    handle ∈ st.made
      ∨ handle.key = key ∧ ∃ n ttl since, st.grip = .granted n ttl since
        ∧ handle.token = tokenText n ∧ handle.ttl = ttl
        ∧ ∃ time task action, e = ⟨time, task, .monotonic, action, .ok handle.acquiredAt⟩ := by
  cases move with
  | aside | find | keep | release | draw => exact .inl made
  | contend =>
    unfold Holder.tried at made
    split at made
    · split at made <;> exact .inl made
    · exact .inl made
  | stamp granted =>
    unfold Holder.stamped at made
    split at made
    · rcases List.mem_cons.1 made with rfl | made
      · exact .inr ⟨rfl, _, _, _, granted, rfl, rfl, _, _, _, rfl⟩
      · exact .inl made
    · exact .inl made

/-- A handle that a task has found it had found before, or just now. -/
theorem Move.found (move : Move key st e st') {handle : LockHandle} (found : handle ∈ st'.found) :
    handle ∈ st.found ∨ e.found? = some handle := by
  cases move with
  | aside | keep | release | draw => exact .inl found
  | @find _ _ _ _ _ answer =>
    rcases List.mem_append.1 found with new | old
    · exact .inr (Option.mem_toList.1 new)
    · exact .inl old
  | contend =>
    unfold Holder.tried at found
    split at found
    · split at found <;> exact .inl found
    · exact .inl found
  | stamp =>
    unfold Holder.stamped at found
    split at found <;> exact .inl found

/-- A task does what takes time only at rest. -/
theorem Move.resting_of_waits (move : Move key st e st') (waits : e.effect.waits) : st.Resting := by
  cases move with
  | aside _ quick =>
    rcases quick with resting | quick
    · exact resting
    · rw [quick] at waits
      cases waits
  | find resting | draw resting | keep resting | release resting => exact resting
  | contend trying => exact Holder.resting_of_grip (.inr ⟨_, trying⟩)
  | stamp => cases waits

/-! ## Tokens -/

/-- What holds of the tokens as which the lock is tried for: they were drawn, each for one task, and
    the lock was granted as none of them. -/
structure Tokens (key : String) (v : World) (holders : Nat → Holder) : Prop where
  drawn : ∀ i n, (holders i).grip = .trying n → n ≤ v.tokens
  apart : ∀ i j n, (holders i).grip = .trying n → (holders j).grip = .trying n → i = j
  spent : ∀ g ∈ v.history, ∀ token ttl, g.grant? key = some (token, ttl) →
    ∃ n, token = tokenText n ∧ n ≤ v.tokens ∧ ∀ i, (holders i).grip ≠ .trying n

/-- Whatever a task does about the lock, no two try for it as the same token. -/
theorem Tokens.event {v : World} {holders : Nat → Holder} (inv : Tokens key v holders)
    (admits : v.Admits e) (move : Move key (holders e.task) e st) :
    Tokens key (v.add e) (Function.update holders e.task st) := by
  -- Who tries for the lock now did so before, or is the task and has drawn the next token.
  have before : ∀ i n, (Function.update holders e.task st i).grip = .trying n →
      (holders i).grip = .trying n ∧ n ≤ v.tokens
        ∨ i = e.task ∧ n = v.tokens + 1 ∧ n = (v.add e).tokens := by
    intro i n trying
    by_cases mine : i = e.task
    · subst mine
      rw [Function.update_self] at trying
      rcases move.trying trying with old | ⟨time, task, action, rfl⟩
      · exact .inl ⟨old, inv.drawn _ n old⟩
      · have fresh : n = v.tokens + 1 := admits.answer
        exact .inr ⟨rfl, fresh, fresh⟩
    · rw [Function.update_of_ne mine] at trying
      exact .inl ⟨trying, inv.drawn i n trying⟩
  have grows := v.tokens_le_add e
  constructor
  · intro i n trying
    rcases before i n trying with ⟨-, old⟩ | ⟨-, -, new⟩
    · exact Nat.le_trans old grows
    · exact Nat.le_of_eq new
  · intro i j n hi hj
    rcases before i n hi with ⟨oldi, lei⟩ | ⟨rfl, newi, -⟩
    · rcases before j n hj with ⟨oldj, -⟩ | ⟨-, newj, -⟩
      · exact inv.apart i j n oldi oldj
      · omega
    · rcases before j n hj with ⟨-, lej⟩ | ⟨rfl, -, -⟩
      · omega
      · rfl
  · intro g hg token ttl grant
    rcases List.mem_append.1 hg with hg | hg
    · obtain ⟨n, same, le, idle⟩ := inv.spent g hg token ttl grant
      refine ⟨n, same, Nat.le_trans le grows, fun i trying => ?_⟩
      rcases before i n trying with ⟨old, -⟩ | ⟨-, new, -⟩
      · exact idle i old
      · omega
    · cases List.mem_singleton.1 hg
      obtain ⟨n, trying, same, granted⟩ := move.granted grant
      refine ⟨n, same, Nat.le_trans (inv.drawn _ n trying) grows, fun i still => ?_⟩
      rcases before i n still with ⟨old, -⟩ | ⟨-, new, -⟩
      · cases inv.apart i _ n old trying
        rw [Function.update_self, granted] at still
        cases still
      · have := inv.drawn _ n trying
        omega

/-! ## The invariant -/

/-- What holds of the lock under a key and of what the tasks know of it, in a world that a run from
    a store leads to. -/
structure Guarded (key : String) (s : Store) (v : World) (holders : Nat → Holder) : Prop where
  store : v.store.Agree key (s.replay v.history)
  past : ∀ x ∈ v.history, x.time ≤ v.now
  tokens : Tokens key v holders
  granted : ∀ i n ttl since, (holders i).grip = .granted n ttl since → since = v.now
    ∧ ∃ g ∈ v.history, g.task = i ∧ g.time = since ∧ g.grant? key = some (tokenText n, ttl)
  made : ∀ i, ∀ handle ∈ (holders i).made, Made key v.history i handle
  found : ∀ i, ∀ handle ∈ (holders i).found, Found v.history i handle
  lawful : Each (Lawful key s) v.history

namespace Guarded

variable {s : Store} {v : World} {holders : Nat → Holder}

/-- What a task does is lawful. -/
theorem lawful_event (inv : Guarded key s v holders) (admits : v.Admits e)
    (honest : e.action.Honest) (move : Move key (holders e.task) e st) :
    Lawful key s v.history e where
  order x hx := admits.time ▸ inv.past x hx
  command c effect about := move.isOwn effect about
  granted token ttl grant := by
    obtain ⟨reply, truthy, same⟩ := Event.eq_of_grant? grant
    have now := admits.time
    have answer := admits.answer
    generalize e.time = time, e.task = task, e.action = action at same now honest
    subst same now
    obtain ⟨rfl, positive, free⟩ := FaultAction.setIfAbsent_answer honest truthy answer.symm
    rw [inv.store] at free
    refine ⟨free, ?_⟩
    show (Command.perform v.now (s.replay v.history) (.setIfAbsent key token ttl)).1 = _
    rw [Command.perform, if_neg (by omega), free]
  fresh token ttl grant x hx ttl' same := by
    obtain ⟨n, trying, text, -⟩ := move.granted grant
    obtain ⟨m, text', -, idle⟩ := inv.tokens.spent x hx token ttl' same
    have equal : n = m := tokenText_injective (text.symm.trans text')
    exact idle _ (equal ▸ trying)
  kept handle kept := inv.made _ handle (move.kept kept)
  released token release := by
    obtain ⟨handle, same, text, known⟩ := move.released release
    exact ⟨handle, same, text, known.imp (inv.made _ handle) (inv.found _ handle)⟩

/-- What a task has learnt of the lock, it tells the truth of. -/
theorem event (inv : Guarded key s v holders) (admits : v.Admits e) (honest : e.action.Honest)
    (move : Move key (holders e.task) e st) :
    Guarded key s (v.add e) (Function.update holders e.task st) where
  store := by
    intro t
    rw [World.add_store admits.time, World.add_history, Store.replay_snoc]
    exact Event.change_agree inv.store e t
  past := List.forall_mem_append.2
    ⟨inv.past, List.forall_mem_singleton.2 (Int.le_of_eq admits.time)⟩
  tokens := inv.tokens.event admits move
  granted i n ttl since granted := by
    have old : (holders i).grip = .granted n ttl since → since = v.now
        ∧ ∃ g ∈ v.history ++ [e], g.task = i ∧ g.time = since
          ∧ g.grant? key = some (tokenText n, ttl) := by
      intro granted
      obtain ⟨now, g, hg, rest⟩ := inv.granted i n ttl since granted
      exact ⟨now, g, List.mem_append_left _ hg, rest⟩
    by_cases mine : i = e.task
    · subst mine
      rw [Function.update_self] at granted
      rcases move.grip_granted granted with before | ⟨time, grant⟩
      · exact old before
      · exact ⟨time.trans admits.time, e, by simp, rfl, time.symm, grant⟩
    · rw [Function.update_of_ne mine] at granted
      exact old granted
  made i handle made := by
    by_cases mine : i = e.task
    · subst mine
      rw [Function.update_self] at made
      rcases move.made made with before | ⟨same, n, ttl, since, granted, token, lasts, stamp⟩
      · exact (inv.made _ handle before).append e
      · -- The clock was read at the instant at which the lock was granted.
        obtain ⟨now, g, hg, task, time, grant⟩ := inv.granted _ n ttl since granted
        refine ⟨same, g, List.mem_append_left _ hg, task, ?_, ?_⟩
        · rw [grant, token, lasts]
        · obtain ⟨_, _, action, rfl⟩ := stamp
          rw [time, now, ← admits.time]
          exact admits.clockSeconds_eq
    · rw [Function.update_of_ne mine] at made
      exact (inv.made i handle made).append e
  found i handle found := by
    by_cases mine : i = e.task
    · subst mine
      rw [Function.update_self] at found
      rcases move.found found with before | now
      · exact (inv.found _ handle before).append e
      · exact ⟨e, by simp, rfl, now⟩
    · rw [Function.update_of_ne mine] at found
      exact (inv.found i handle found).append e
  lawful := inv.lawful.snoc (inv.lawful_event admits honest move)

/-- Time may pass while no task is on the way from a granted lock to its handle. -/
theorem pass (inv : Guarded key s v holders) {t : Int} (later : v.now ≤ t)
    (resting : ∀ i, (holders i).Resting) : Guarded key s (v.atTime t) holders where
  store := inv.store
  past x hx := Int.le_trans (inv.past x hx) later
  tokens := ⟨inv.tokens.drawn, inv.tokens.apart, inv.tokens.spent⟩
  granted i n ttl since granted := absurd granted (resting i n ttl since)
  made := inv.made
  found := inv.found
  lawful := inv.lawful

end Guarded

/-! ## Tasks that make calls -/

/-- Tasks that each make calls one after the other, to start after their delays. -/
def inTurn (instances : Instances) (tasks : List (Int × List Call)) (s : System) :
    Schedule (Except Failure (List CallResult)) :=
  .start (tasks.map fun task => (task.1, (Call.routines instances task.2).run)) s

/-- What the surroundings may do: whatever leaves the entry under a key as it is, takes back no
    token, and lets no one answer in the store's place. -/
def besides (key : String) : Setting (Except Failure (List CallResult)) where
  outside s s' := s'.elapsed = s.elapsed ∧ s.tokens ≤ s'.tokens ∧ s'.store.Agree key s.store
    ∧ ∀ f ∈ s'.faults, f.action.Honest

/-- Tasks that keep to the protocol of the lock under a key, where any commands may fail. -/
def regime (key : String) : Regime (Except Failure (List CallResult)) Holder where
  setting := besides key
  protocol _ := protocol key
  ends _ _ st := st.Resting
  actions := FaultAction.Honest
  vacant := .fresh

theorem resting_fresh : Holder.fresh.Resting := Holder.resting_of_grip (.inl rfl)

/-- At the start no task knows of the lock. -/
theorem atRest_inTurn {instances : Instances} {tasks : List (Int × List Call)}
    (leave : ∀ task ∈ tasks, Call.AllLeave key task.2) (s : System) :
    (regime key).AtRest (inTurn instances tasks s) fun _ => .fresh := by
  refine ⟨?_, fun _ _ => rfl⟩
  intro i t ht
  simp only [inTurn, Schedule.start, List.getElem?_mapIdx, List.getElem?_map,
    Option.map_eq_some_iff] at ht
  obtain ⟨_, ⟨task, hi, rfl⟩, rfl⟩ := ht
  refine ⟨rfl, fun _ => nofun, fun time action answer =>
    ⟨.fresh, .aside trivial (.inl resting_fresh), ?_⟩⟩
  exact (Call.allMind instances key task.2 (leave task (List.mem_of_getElem? hi)) i .fresh
    resting_fresh).mono fun _ _ later => later.resting

/-- A task that rests is not on the way from a granted lock to its handle. -/
theorem resting_of_atRest {c : Schedule (Except Failure (List CallResult))} {holders : Nat → Holder}
    (rest : (regime key).AtRest c holders) (i : Nat) : (holders i).Resting := by
  cases ht : c.tasks[i]? with
  | none =>
    rw [rest.2 i ht]
    exact resting_fresh
  | some t =>
    have rests := rest.1 i t ht
    cases t with
    | ended result => exact rests
    | waiting w =>
      obtain ⟨waits, -, obeys⟩ := rests
      obtain ⟨answer⟩ := Effect.nonempty_of_waits waits
      obtain ⟨st, move, -⟩ := obeys 0 .perform answer
      exact move.resting_of_waits waits

/-- What holds of every move holds of the whole run. -/
theorem Guarded.keeps {s : Store} : (regime key).Keeps (Guarded key s) where
  perform := nofun
  event _ _ _ _ inv admits honest move := inv.event admits honest move
  pass c h holders t inv rest later _ := inv.pass later (resting_of_atRest rest)
  outside := by
    rintro s₁ s₂ h holders inv - ⟨now, tokens, same, honest⟩
    refine ⟨⟨fun t => ?_, ?_, ?_, ?_, inv.made, inv.found, inv.lawful⟩, honest⟩
    · exact (same t).trans (inv.store t)
    · intro x hx
      exact Int.le_trans (inv.past x hx) (Int.le_of_eq now.symm)
    · refine ⟨fun i n trying => Nat.le_trans (inv.tokens.drawn i n trying) tokens,
        inv.tokens.apart, fun g hg token ttl grant => ?_⟩
      obtain ⟨n, text, le, idle⟩ := inv.tokens.spent g hg token ttl grant
      exact ⟨n, text, Nat.le_trans le tokens, idle⟩
    · intro i n ttl since granted
      obtain ⟨time, g, hg, rest⟩ := inv.granted i n ttl since granted
      exact ⟨time.trans now.symm, g, hg, rest⟩

/-- **A lock is owned.** Tasks make calls one after the other, at any pace and in any order, and the
    surroundings do what they like; but no one does anything about a key except to acquire and to
    release the lock there, or to read. Commands may take any time, and fail before or after their
    effect. Then what is promised of the lock is kept in all that the tasks do: no one is granted it
    before the last grant has run out or was deleted as its own token, and a release deletes no
    entry but one that holds the token of its own handle. -/
theorem owned {instances : Instances} {tasks : List (Int × List Call)} {s : System}
    {history : List Event} {final : Schedule (Except Failure (List CallResult))}
    (leave : ∀ task ∈ tasks, Call.AllLeave key task.2)
    (honest : ∀ f ∈ s.faults, f.action.Honest)
    (run : (inTurn instances tasks s).Run (besides key) history final) :
    Owned key s.store history := by
  have start : Guarded key s.store (.of s []) fun _ => .fresh := by
    refine ⟨fun _ => rfl, fun x hx => (nomatch hx), ⟨fun _ _ h => (nomatch h),
      fun _ _ _ h => (nomatch h), fun x hx => (nomatch hx)⟩, fun _ _ _ _ h => (nomatch h),
      fun _ _ h => (nomatch h), fun _ _ h => (nomatch h), Each.nil _⟩
  obtain ⟨holders, inv, -, -⟩ := run.invariant Guarded.keeps start (atRest_inTurn leave s) honest
  exact .of_lawful inv.lawful

/-! ## A late release -/

/-- One task acquires a lock and releases it after it has run out, twice. Meanwhile another acquires
    it. -/
def ownerAndSuccessor : List (Int × List Call) :=
  [(0, [.acquire "a" "k" ⟨1000, 0, 100⟩, .wait 2000, .release "a", .release "a"]),
    (1500, [.acquire "b" "k" ⟨1000, 0, 100⟩])]

/-- Turns of the two tasks. -/
def lateRelease : Option (List Event × Schedule (Except Failure (List CallResult))) :=
  (inTurn ⟨[{}]⟩ ownerAndSuccessor {}).follow
    [(0, 0), (0, 0), (1, 1500), (1, 1500), (0, 2000), (0, 2000), (0, 2000)]

theorem isSome_lateRelease : lateRelease.isSome := by decide +kernel

/-- The successor's lock is still there after both releases. -/
theorem owned_of_lateRelease :
    ∃ history final, lateRelease = some (history, final) ∧ Owned "k" {} history
      ∧ history.filterMap (Event.grant? "k") = [(tokenText 1, 1000), (tokenText 2, 1000)]
      ∧ history.filterMap (Event.release? "k") = [tokenText 1, tokenText 1]
      ∧ (Store.replay {} history).get? 2000 "k" = some ⟨tokenText 2, some 2500⟩ := by
  obtain ⟨⟨history, final⟩, follows⟩ := Option.isSome_iff_exists.1 isSome_lateRelease
  have told : ((lateRelease.map (·.1)).getD []).filterMap (Event.grant? "k")
        = [(tokenText 1, 1000), (tokenText 2, 1000)]
      ∧ ((lateRelease.map (·.1)).getD []).filterMap (Event.release? "k")
        = [tokenText 1, tokenText 1]
      ∧ (Store.replay {} ((lateRelease.map (·.1)).getD [])).get? 2000 "k"
        = some ⟨tokenText 2, some 2500⟩ := by decide +kernel
  rw [follows] at told
  have free : ∀ c t, (besides "k").mayPass c t := fun _ _ => trivial
  have leave : ∀ task ∈ ownerAndSuccessor, Call.AllLeave "k" task.2 := by
    intro task ht
    simp only [ownerAndSuccessor, List.mem_cons, List.not_mem_nil, or_false] at ht
    rcases ht with rfl | rfl <;> simp [Call.AllLeave, Call.Leaves]
  exact ⟨history, final, follows, owned leave (by simp) (Schedule.run_of_follow free follows), told⟩

end Lock

end Turnstile

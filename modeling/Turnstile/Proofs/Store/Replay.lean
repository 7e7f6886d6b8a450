import Turnstile.Proofs.Run.Protocol
import Turnstile.Proofs.Store.Commands

set_option autoImplicit false

/-! # The store by its history

What the tasks of a run did to the store is told by the run's history: `Store.replay` does it again.
Where the surroundings leave a key alone, what is found under it is what the history tells. -/

namespace Turnstile

/-- What an event makes of the store. -/
def Event.change (s : Store) (e : Event) : Store :=
  match e.effect with
  | .command c => (e.action.apply e.time s c).1
  | _ => s

/-- The store after all that a history tells. -/
def Store.replay (s : Store) (h : List Event) : Store := h.foldl Event.change s

@[simp] theorem Store.replay_nil (s : Store) : s.replay [] = s := rfl

@[simp] theorem Store.replay_snoc (s : Store) (h : List Event) (e : Event) :
    s.replay (h ++ [e]) = e.change (s.replay h) := by
  simp [replay]

/-- Two stores have the same under a key. -/
def Store.Agree (key : String) (s s' : Store) : Prop := ∀ t, s.get? t key = s'.get? t key

/-- An event makes the same of what two stores have under a key, where they agree on it. -/
theorem Event.change_agree {key : String} {s s' : Store} (agree : s.Agree key s') (e : Event) :
    (e.change s).Agree key (e.change s') := by
  intro t
  obtain ⟨time, task, effect, action, answer⟩ := e
  cases effect with
  | command c => exact action.get?_apply_congr (agree time) (agree t) c
  | _ => exact agree t

/-- An event that is no command about a key leaves what is under it. -/
theorem Event.get?_change_of_ne {key : String} {e : Event}
    (other : ∀ c, e.effect = .command c → c.key? ≠ some key) (s : Store) (t : Int) :
    (e.change s).get? t key = s.get? t key := by
  obtain ⟨time, task, effect, action, answer⟩ := e
  cases effect with
  | command c => exact action.get?_apply_of_ne time t s c key (other c rfl)
  | _ => rfl

/-- The event that a world admits makes of its store what it makes of any. -/
theorem World.add_store {v : World} {e : Event} (time : e.time = v.now) :
    (v.add e).store = e.change v.store := by
  obtain ⟨_, task, effect, action, answer⟩ := e
  cases time
  cases effect <;> rfl

end Turnstile

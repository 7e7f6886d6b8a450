import Turnstile.Failure

set_option autoImplicit false

/-! # The shared store

A map from keys to texts, each with an instant at which it is gone. Instants are milliseconds since
the run began. An entry is live before its expiry; one whose expiry has come is as good as absent,
and reading, listing and deleting treat it so. -/

namespace Turnstile

/-- A stored text and the instant at which it is gone, if there is one. -/
structure Entry where
  value : String
  expiry : Option Int
deriving DecidableEq, Repr

/-- An entry is live while its expiry lies ahead. -/
def Entry.isLive (now : Int) (e : Entry) : Bool := e.expiry.all (now < ·)

/-- The entries of the store, each key once. -/
structure Store where
  entries : List (String × Entry) := []
deriving Repr, Inhabited

namespace Store

/-- The live entry under a key. -/
def get? (s : Store) (now : Int) (key : String) : Option Entry :=
  (s.entries.lookup key).filter (·.isLive now)

/-- Put an entry under a key, in place of what was there. -/
def put (s : Store) (key : String) (e : Entry) : Store :=
  ⟨(key, e) :: s.entries.filter (·.1 ≠ key)⟩

/-- Remove what is under a key. -/
def erase (s : Store) (key : String) : Store := ⟨s.entries.filter (·.1 ≠ key)⟩

/-- The live entries in order of their keys. -/
def live (s : Store) (now : Int) : List (String × Entry) :=
  (s.entries.filter (·.2.isLive now)).mergeSort fun a b => a.1 ≤ b.1

/-! ## What is read after a change -/

theorem lookup_filter_ne (l : List (String × Entry)) (key k : String) :
    (l.filter (·.1 ≠ key)).lookup k = if k = key then none else l.lookup k := by
  induction l with
  | nil => simp
  | cons p rest ih =>
    obtain ⟨q, e⟩ := p
    by_cases hq : q = key
    · subst hq
      by_cases hk : k = q
      · subst hk; simpa using ih
      · have : (k == q) = false := by simpa using hk
        simpa [List.lookup_cons, this, hk] using ih
    · by_cases hk : k = q
      · subst hk; simp [hq]
      · have : (k == q) = false := by simpa using hk
        simpa [List.lookup_cons, this, hq] using ih

theorem get?_put (s : Store) (now : Int) (key k : String) (e : Entry) :
    (s.put key e).get? now k
      = if k = key then (some e).filter (·.isLive now) else s.get? now k := by
  by_cases hk : k = key
  · subst hk; simp [get?, put]
  · have : (k == key) = false := by simpa using hk
    have hl := lookup_filter_ne s.entries key k
    simp only [hk, if_false] at hl
    simp only [get?, put, List.lookup_cons, this, hl, hk, if_false]

theorem get?_erase (s : Store) (now : Int) (key k : String) :
    (s.erase key).get? now k = if k = key then none else s.get? now k := by
  have hl := lookup_filter_ne s.entries key k
  by_cases hk : k = key
  · simp only [hk, if_true] at hl ⊢; simp only [get?, erase, hl, Option.filter_none]
  · simp only [hk, if_false] at hl ⊢; simp only [get?, erase, hl]

end Store

end Turnstile

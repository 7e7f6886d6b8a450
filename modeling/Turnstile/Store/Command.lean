import Turnstile.Store.Basic

set_option autoImplicit false

/-! # Commands of the store

Each command reads and changes the store in one indivisible step and replies with a JSON value, or
fails with a failure of the store's own. -/

namespace Turnstile

/-- A command, with its arguments. -/
inductive Command where
  | get (key : String)
  | set (key value : String) (ttlSeconds : Int)
  | setIfAbsent (key value : String) (ttlMillis : Int)
  | delete (key : String)
  | deleteIfEqual (key value : String)
  | ping
  | close
deriving DecidableEq, Repr

namespace Command

/-- The commands without their arguments. -/
inductive Kind where
  | get
  | set
  | setIfAbsent
  | delete
  | deleteIfEqual
  | ping
  | close
deriving DecidableEq, Repr

def kind : Command → Kind
  | .get _ => .get
  | .set .. => .set
  | .setIfAbsent .. => .setIfAbsent
  | .delete _ => .delete
  | .deleteIfEqual .. => .deleteIfEqual
  | .ping => .ping
  | .close => .close

/-- The key that a command is about. -/
def key? : Command → Option String
  | .get key | .set key .. | .setIfAbsent key .. | .delete key | .deleteIfEqual key _ => some key
  | .ping | .close => none

/-- The failure of a command that stores for no time at all. -/
def invalidExpiry : Failure := .raised .response "invalid expire time in 'set' command"

/-- The effect of a command at an instant. -/
def perform (now : Int) (s : Store) : Command → Store × Except Failure Json
  | .get key =>
    match s.get? now key with
    | some e => (s, .ok (.text e.value))
    | none => (s, .ok .null)
  | .set key value ttl =>
    if ttl ≤ 0 then (s, .error invalidExpiry)
    else (s.put key ⟨value, some (now + ttl * 1000)⟩, .ok (.bool true))
  | .setIfAbsent key value ttl =>
    if ttl ≤ 0 then (s, .error invalidExpiry)
    else
      match s.get? now key with
      | some _ => (s, .ok .null)
      | none => (s.put key ⟨value, some (now + ttl)⟩, .ok (.bool true))
  | .delete key =>
    match s.get? now key with
    | some _ => (s.erase key, .ok (.int 1))
    | none => (s, .ok (.int 0))
  | .deleteIfEqual key value =>
    match s.get? now key with
    | some e => if e.value = value then (s.erase key, .ok (.int 1)) else (s, .ok (.int 0))
    | none => (s, .ok (.int 0))
  | .ping => (s, .ok (.bool true))
  | .close => (s, .ok .null)

/-- A command about another key leaves an entry as it is. -/
theorem get?_perform_of_ne (now later : Int) (s : Store) (c : Command) (k : String)
    (h : c.key? ≠ some k) : (c.perform now s).1.get? later k = s.get? later k := by
  cases c with
  | get key => simp only [perform]; split <;> rfl
  | set key value ttl =>
    have hk : k ≠ key := fun e => h (by simp [key?, e])
    simp only [perform]
    split
    · rfl
    · simp [Store.get?_put, hk]
  | setIfAbsent key value ttl =>
    have hk : k ≠ key := fun e => h (by simp [key?, e])
    simp only [perform]
    split
    · rfl
    · split <;> simp [Store.get?_put, hk]
  | delete key =>
    have hk : k ≠ key := fun e => h (by simp [key?, e])
    simp only [perform]
    split <;> simp [Store.get?_erase, hk]
  | deleteIfEqual key value =>
    have hk : k ≠ key := fun e => h (by simp [key?, e])
    simp only [perform]
    split
    · split <;> simp [Store.get?_erase, hk]
    · rfl
  | ping => rfl
  | close => rfl

end Command

end Turnstile

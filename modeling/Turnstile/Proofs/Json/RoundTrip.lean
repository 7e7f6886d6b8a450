import Turnstile.Json.Reader
import Turnstile.Proofs.Json.Tokens

set_option autoImplicit false

/-! # Values read back

The text of a value in the store's style, read back, is that value (`Json.read_write`): every null,
truth value, string, list and object, with its members in their order, and every integer that has
few enough digits to be written at all. Only the depth of a value is bounded, as the reader bounds
it. The induction is on the value: reading its text where a value is expected comes to the place
after that value, inside whatever containers are open. -/

namespace Turnstile

namespace Json

/-! ## Values without binary64 numbers -/

/-- A value of no binary64 numbers, of integers that can be written and of objects with distinct
    keys, with at most so many containers inside each other. -/
inductive Storable : Nat → Json → Prop
  | null {depth : Nat} : Storable depth .null
  | bool {depth : Nat} (b : Bool) : Storable depth (.bool b)
  | int {depth : Nat} {n : Int} (fits : digitCount n.natAbs ≤ maxIntegerDigits) :
      Storable depth (.int n)
  | text {depth : Nat} (s : String) : Storable depth (.text s)
  | list {depth : Nat} {items : List Json} (inner : ∀ v ∈ items, Storable depth v) :
      Storable (depth + 1) (.list items)
  | object {depth : Nat} {members : List (String × Json)}
      (distinct : (members.map (·.1)).Nodup) (inner : ∀ m ∈ members, Storable depth m.2) :
      Storable (depth + 1) (.object members)

theorem itemsFit_iff (items : List Json) : itemsFit items ↔ ∀ v ∈ items, v.integersFit := by
  induction items with
  | nil => simp [itemsFit]
  | cons v rest ih => simp [itemsFit, ih]

theorem membersFit_iff (members : List (String × Json)) :
    membersFit members ↔ ∀ m ∈ members, m.2.integersFit := by
  induction members with
  | nil => simp [membersFit]
  | cons m rest ih =>
    obtain ⟨k, v⟩ := m
    simp [membersFit, ih]

/-- Such a value can be written. -/
theorem Storable.integersFit {depth : Nat} {v : Json} (h : Storable depth v) : v.integersFit := by
  induction h with
  | null => rfl
  | bool => rfl
  | int fits => simpa [Json.integersFit] using fits
  | text => rfl
  | list _ ih => exact (itemsFit_iff _).2 ih
  | object _ _ ih => exact (membersFit_iff _).2 ih

/-! ## Reading on from a place -/

namespace Reading

/-- The place that a text leads to. -/
def along (place : Reading) (cs : List Char) : Except ReadError Reading :=
  (Token.all cs).foldlM take place

theorem along_of_next {place after : Reading} {cs rest : List Char} {t : Token}
    (next : Token.next cs = some (t, rest)) (took : place.take t = .ok after) :
    place.along cs = after.along rest := by
  rw [along, Token.all_of_next next, List.foldlM_cons, took]
  rfl

theorem along_space (place : Reading) (cs : List Char) :
    place.along (' ' :: cs) = place.along cs := by
  rw [along, Token.all_space, along]

theorem along_nil (place : Reading) : place.along [] = .ok place := by
  rw [along, Token.all_of_next_eq_none rfl]
  rfl

end Reading

open Reading

/-- The text of `v` leads from where a value is expected inside so many containers to the place after
    `v`. -/
def ReadsBack (v : Json) (depth : Nat) : Prop :=
  ∀ frames closable rest, frames.length + depth ≤ maxDepth → endsInteger rest →
    (atValue frames closable).along (writeValue .stored v ++ rest)
      = (afterValue frames v).along rest

theorem ReadsBack.of_token {v : Json} {depth : Nat} {t : Token}
    (next : ∀ rest, endsInteger rest → Token.next (writeValue .stored v ++ rest) = some (t, rest))
    (took : ∀ frames closable, takeValue frames closable t = .ok (afterValue frames v)) :
    ReadsBack v depth :=
  fun frames closable rest _ ends => along_of_next (next rest ends) (took frames closable)

/-! ## Lists -/

/-- The items of a list are read one by one up to its end. -/
theorem along_writeItems {depth : Nat} (items : List Json) (before : List Json) (v : Json)
    (inner : ∀ w ∈ v :: items, ReadsBack w depth) {outer : List Frame}
    (room : outer.length + (depth + 1) ≤ maxDepth) (closable : Bool) (rest : List Char) :
    (atValue (.list before :: outer) closable).along
        (writeItems .stored (v :: items) ++ ']' :: rest)
      = (afterValue outer (.list (before.reverse ++ v :: items))).along rest := by
  have here : ∀ frame : Frame, (frame :: outer).length + depth ≤ maxDepth := by
    intro frame
    rw [List.length_cons]
    omega
  induction items generalizing before v closable with
  | nil =>
    have hv : ReadsBack v depth := inner v List.mem_cons_self
    have close : Token.next (']' :: rest) = some (.listClose, rest) := rfl
    rw [writeItems, hv _ _ _ (here _) rfl, along_of_next close rfl, List.reverse_cons]
  | cons w items ih =>
    have hv : ReadsBack v depth := inner v List.mem_cons_self
    have comma : ∀ cs, Token.next (',' :: cs) = some (.comma, cs) := fun _ => rfl
    have split : writeItems .stored (v :: w :: items) ++ ']' :: rest
        = writeValue .stored v ++ ',' :: ' ' :: (writeItems .stored (w :: items) ++ ']' :: rest) := by
      simp [writeItems, Style.stored]
    have further := ih (v :: before) w (fun u hu => inner u (List.mem_cons_of_mem v hu)) false
    rw [split, hv _ _ _ (here _) rfl, along_of_next (comma _) rfl, along_space, further]
    simp

/-- So the text of a list is read back where those of its items are. -/
theorem ReadsBack.list {depth : Nat} {items : List Json} (inner : ∀ v ∈ items, ReadsBack v depth) :
    ReadsBack (.list items) (depth + 1) := by
  intro frames closable rest room _
  have opened : ∀ cs, (atValue frames closable).along ('[' :: cs)
      = (atValue (.list [] :: frames) true).along cs := by
    intro cs
    have bracket : Token.next ('[' :: cs) = some (.listOpen, cs) := rfl
    exact along_of_next bracket (by rw [take, takeValue, if_pos (by omega)])
  rw [writeValue, List.append_assoc, List.cons_append, List.singleton_append, opened]
  cases items with
  | nil => exact along_of_next (t := .listClose) rfl rfl
  | cons v items => exact along_writeItems items [] v inner room true rest

/-! ## Objects -/

/-- A member with a new key comes last. -/
theorem setMember_of_notMem {key : String} (value : Json) {members : List (String × Json)}
    (fresh : key ∉ members.map (·.1)) :
    setMember key value members = members ++ [(key, value)] := by
  induction members with
  | nil => rfl
  | cons m rest ih =>
    obtain ⟨k, v⟩ := m
    simp only [List.map_cons, List.mem_cons, not_or] at fresh
    rw [setMember, if_neg fun h => fresh.1 h.symm, ih fresh.2, List.cons_append]

theorem fresh_of_nodup {before after : List (String × Json)} {k : String} {v : Json}
    (distinct : ((before ++ (k, v) :: after).map (·.1)).Nodup) : k ∉ before.map (·.1) := by
  rw [List.map_append, List.map_cons, List.nodup_append] at distinct
  exact fun h => distinct.2.2 k h k List.mem_cons_self rfl

/-- A key and its value are read up to what comes after them. -/
theorem along_member {depth : Nat} {k : String} {v : Json} (hv : ReadsBack v depth)
    {outer : List Frame} (room : outer.length + (depth + 1) ≤ maxDepth)
    (before : List (String × Json)) (closable : Bool) {rest : List Char}
    (ends : endsInteger rest) :
    (atKey outer before closable).along
        (writeString true k ++ ':' :: ' ' :: (writeValue .stored v ++ rest))
      = (afterValue (.object before k :: outer) v).along rest := by
  have colon : ∀ cs, Token.next (':' :: cs) = some (.colon, cs) := fun _ => rfl
  have here : (Frame.object before k :: outer).length + depth ≤ maxDepth := by
    rw [List.length_cons]
    omega
  rw [along_of_next (next_writeString k _) rfl, along_of_next (colon _) rfl, along_space,
    hv _ _ _ here ends]

/-- The members of an object are read one by one up to its end. -/
theorem along_writeMembers {depth : Nat} (members before : List (String × Json))
    (m : String × Json) (distinct : ((before ++ m :: members).map (·.1)).Nodup)
    (inner : ∀ p ∈ m :: members, ReadsBack p.2 depth) {outer : List Frame}
    (room : outer.length + (depth + 1) ≤ maxDepth) (closable : Bool) (rest : List Char) :
    (atKey outer before closable).along (writeMembers .stored (m :: members) ++ '\x7d' :: rest)
      = (afterValue outer (.object (before ++ m :: members))).along rest := by
  induction members generalizing before m closable with
  | nil =>
    obtain ⟨k, v⟩ := m
    have hv : ReadsBack v depth := inner (k, v) List.mem_cons_self
    have close : Token.next ('\x7d' :: rest) = some (.objectClose, rest) := rfl
    have last : setMember k v before = before ++ [(k, v)] :=
      setMember_of_notMem v (fresh_of_nodup distinct)
    have split : writeMembers .stored [(k, v)] ++ '\x7d' :: rest
        = writeString true k ++ ':' :: ' ' :: (writeValue .stored v ++ '\x7d' :: rest) := by
      simp [writeMembers, Style.stored]
    rw [split, along_member hv room before closable rfl, along_of_next close rfl, last]
  | cons w members ih =>
    obtain ⟨k, v⟩ := m
    have hv : ReadsBack v depth := inner (k, v) List.mem_cons_self
    have comma : ∀ cs, Token.next (',' :: cs) = some (.comma, cs) := fun _ => rfl
    have last : setMember k v before = before ++ [(k, v)] :=
      setMember_of_notMem v (fresh_of_nodup distinct)
    have split : writeMembers .stored ((k, v) :: w :: members) ++ '\x7d' :: rest
        = writeString true k ++ ':' :: ' ' :: (writeValue .stored v
          ++ ',' :: ' ' :: (writeMembers .stored (w :: members) ++ '\x7d' :: rest)) := by
      simp [writeMembers, Style.stored]
    have further := ih (before ++ [(k, v)]) w (by simpa using distinct)
      (fun p hp => inner p (List.mem_cons_of_mem _ hp)) false
    rw [split, along_member hv room before closable rfl, along_of_next (comma _) rfl, along_space,
      last, further]
    simp

/-- So the text of an object is read back where those of its values are. -/
theorem ReadsBack.object {depth : Nat} {members : List (String × Json)}
    (distinct : (members.map (·.1)).Nodup) (inner : ∀ m ∈ members, ReadsBack m.2 depth) :
    ReadsBack (.object members) (depth + 1) := by
  intro frames closable rest room _
  have opened : ∀ cs, (atValue frames closable).along ('\x7b' :: cs)
      = (atKey frames [] true).along cs := by
    intro cs
    have brace : Token.next ('\x7b' :: cs) = some (.objectOpen, cs) := rfl
    exact along_of_next brace (by rw [take, takeValue, if_pos (by omega)])
  rw [writeValue, List.append_assoc, List.cons_append, List.singleton_append, opened]
  cases members with
  | nil => exact along_of_next (t := .objectClose) rfl rfl
  | cons m members => exact along_writeMembers members [] m distinct inner room true rest

/-! ## Whole values -/

theorem Storable.readsBack {depth : Nat} {v : Json} (h : Storable depth v) :
    ReadsBack v depth := by
  induction h with
  | null => exact .of_token (t := .scalar .null) (fun _ _ => rfl) fun _ _ => rfl
  | bool b =>
    cases b with
    | true => exact .of_token (t := .scalar (.bool true)) (fun _ _ => rfl) fun _ _ => rfl
    | false => exact .of_token (t := .scalar (.bool false)) (fun _ _ => rfl) fun _ _ => rfl
  | @int _ n fits =>
    have token : ∀ rest, endsInteger rest →
        Token.next (writeValue .stored (.int n) ++ rest) = some (.scalar (.int n), rest) := by
      intro rest ends
      rw [writeValue]
      exact next_writeInt fits ends
    exact .of_token token fun _ _ => rfl
  | text s =>
    have token : ∀ rest, endsInteger rest →
        Token.next (writeValue .stored (.text s) ++ rest) = some (.text s, rest) := by
      intro rest _
      rw [writeValue]
      exact next_writeString s rest
    exact .of_token token fun _ _ => rfl
  | list _ ih => exact .list ih
  | object distinct _ ih => exact .object distinct ih

/-- **A value is read back.** Its text in the store's style is read as the value itself, if its
    containers are nested no deeper than is read. -/
theorem read_write {depth : Nat} {v : Json} (h : Storable depth v) (shallow : depth ≤ maxDepth) :
    Json.read (v.write .stored) = .ok v := by
  have whole : start.along (writeValue .stored v) = .ok (afterValue [] v) := by
    have back := h.readsBack [] false [] (by simpa using shallow) rfl
    rwa [List.append_nil, along_nil] at back
  rw [read, write, String.toList_ofList]
  rw [along] at whole
  rw [whole]
  rfl

end Json

end Turnstile

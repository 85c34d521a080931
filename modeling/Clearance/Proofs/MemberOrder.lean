/-
# Clearance.Proofs.MemberOrder -- the members of a record may stand in any order

A record's decoder takes the members of an object one by one, in the order of the
document.  What it makes of them does not depend on that order (`InAnyOrder`), because
reading one member does not get in the way of reading another: each reads into a field of
its own, which has to be free (`OrderFree`).

A record is shown to be so field by field.  Reading a member is reading it into every
field, each of which passes over what is not its own (`readField`), so a record takes
its members in any order because each field does.

As a value an object has its members by ascending key, which for keys that are distinct
is some order of them (`canonicalMembers_perm`).  So a decoder that reads the members
as they were written reads the value as well (`read_canonical`).
-/
import Mathlib.Data.List.Nodup
import Mathlib.Tactic.SplitIfs
import Clearance.Wire.Entry
import Clearance.Wire.Path

namespace Clearance

open Clearance.Json

set_option autoImplicit false

/-! ## The order of a value's members -/

namespace Ordered

/-- Of elements with distinct keys building makes a rearrangement. -/
theorem ofList_perm {α β : Type} [Ord β] [Std.TransOrd β] [Std.LawfulEqOrd β] {key : α → β}
    {xs : List α} (distinct : (xs.map key).Nodup) : (ofList (compareOn key) xs).Perm xs := by
  have alone : ∀ x ∈ xs, ∀ y ∈ xs, compareOn key x y = .eq → x = y := fun x hx y hy same =>
    List.inj_on_of_nodup_map distinct hx hy (Std.LawfulEqOrd.eq_of_compare same)
  exact (List.perm_ext_iff_of_nodup (nodup_of_ascending (ascending_ofList xs))
    distinct.of_map).2 fun _ => mem_ofList_iff alone

end Ordered

namespace Json.Value

theorem canonicalMembers_perm {members : List (String × Value)}
    (distinct : (members.map Prod.fst).Nodup) :
    (Ordered.ofList compareKeys (canonicalMembers members)).Perm (canonicalMembers members) := by
  have keys : ((canonicalMembers members).map Prod.fst).Nodup := by
    rwa [canonicalMembers_eq_map, List.map_map]
  exact Ordered.ofList_perm keys

end Json.Value

namespace Json.Outline

theorem ofMembers_eq_map (members : List (String × Value)) :
    ofMembers members = members.map fun m => (some m.1, ofValue m.2) := by
  induction members with
  | nil => rfl
  | cons m ms ih => rw [ofMembers, ih, List.map_cons]

end Json.Outline

namespace Wire

section

variable {ε α β : Type}

theorem bind_eq_ok_iff {x : Except ε α} {f : α → Except ε β} {b : β} :
    x.bind f = .ok b ↔ ∃ a, x = .ok a ∧ f a = .ok b := by
  cases x <;> simp [Except.bind]

theorem map_eq_ok_iff {x : Except ε α} {f : α → β} {b : β} :
    x.map f = .ok b ↔ ∃ a, x = .ok a ∧ f a = b := by
  cases x <;> simp [Except.map]

end

/-! ## Members in any order -/

section

variable {σ α : Type}

/-- Where one member and then another are read, they are read the other way round as
well, and to the same end. -/
def OrderFree (readMember : σ → String → Outline → Except Fault σ) : Prop :=
  ∀ ⦃s u t k o k' o'⦄, readMember s k o = .ok u → readMember u k' o' = .ok t →
    ∃ w, readMember s k' o' = .ok w ∧ readMember w k o = .ok t

/-- What is decoded from an object is decoded from it with its members in any other order. -/
def InAnyOrder (read : Outline → Except Fault α) : Prop :=
  ∀ ⦃ms ms' a⦄, ms.Perm ms' → read (.object ms true) = .ok a → read (.object ms' true) = .ok a

variable {readMember : σ → String → Outline → Except Fault σ} {closed : Bool}

theorem readMembers_cons_eq_ok_iff {s t : σ} {m : Option String × Outline}
    {ms : List (Option String × Outline)} :
    readMembers readMember closed s (m :: ms) = .ok t ↔
      ∃ key u, m.1 = some key ∧ readMember s key m.2 = .ok u ∧
        readMembers readMember closed u ms = .ok t := by
  obtain ⟨key, o⟩ := m
  cases key with
  | none => simp [readMembers]
  | some key => simp [readMembers, bind_eq_ok_iff]

theorem readMembers_perm (free : OrderFree readMember) {ms ms' : List (Option String × Outline)}
    (perm : ms.Perm ms') {s t : σ} (read : readMembers readMember closed s ms = .ok t) :
    readMembers readMember closed s ms' = .ok t := by
  induction perm generalizing s with
  | nil => exact read
  | cons m _ ih =>
      obtain ⟨key, u, named, first, rest⟩ := readMembers_cons_eq_ok_iff.1 read
      exact readMembers_cons_eq_ok_iff.2 ⟨key, u, named, first, ih rest⟩
  | swap m m' ms =>
      obtain ⟨key, u, named, first, rest⟩ := readMembers_cons_eq_ok_iff.1 read
      obtain ⟨key', v, named', second, rest⟩ := readMembers_cons_eq_ok_iff.1 rest
      obtain ⟨w, secondFirst, firstSecond⟩ := free first second
      exact readMembers_cons_eq_ok_iff.2 ⟨key', w, named', secondFirst,
        readMembers_cons_eq_ok_iff.2 ⟨key, v, named, firstSecond, rest⟩⟩
  | trans _ _ ih ih' => exact ih' (ih read)

/-- A record made of what its members were read into may have them in any order. -/
theorem inAnyOrder_of_orderFree (free : OrderFree readMember) {start : σ}
    {finish : σ → Except Fault α} {read : Outline → Except Fault α}
    (record : ∀ ms, read (.object ms true) = (readMembers readMember true start ms).bind finish) :
    InAnyOrder read := by
  intro ms ms' a perm decoded
  rw [record] at decoded ⊢
  obtain ⟨fields, members, finished⟩ := bind_eq_ok_iff.1 decoded
  exact bind_eq_ok_iff.2 ⟨fields, readMembers_perm free perm members, finished⟩

/-- What is decoded from members as they were written is decoded from the value. -/
theorem InAnyOrder.read_canonical {read : Outline → Except Fault α} (free : InAnyOrder read)
    {members : List (String × Value)} (distinct : (members.map Prod.fst).Nodup) {a : α}
    (written : read (Outline.ofValue (.object (Value.canonicalMembers members))) = .ok a) :
    read (Outline.ofValue (Value.object members).canonical) = .ok a := by
  rw [Value.canonical, Outline.ofValue, Outline.ofMembers_eq_map]
  rw [Outline.ofValue, Outline.ofMembers_eq_map] at written
  exact free ((Value.canonicalMembers_perm distinct).symm.map _) written

end

/-! ## One field -/

section

variable {α : Type} {name : String} {read : Outline → Except Fault α} {field field' : Option α}
  {key : String} {o : Outline}

theorem readOnce_eq_ok_iff {value : Except Fault α} {a : α} :
    readOnce field name value = .ok a ↔ field = none ∧ value = .ok a := by
  cases field <;> simp [readOnce]

/-- Read a member into the field of a name, which passes over all but its own. -/
def readField (name : String) (read : Outline → Except Fault α) (field : Option α) (key : String)
    (o : Outline) : Except Fault (Option α) :=
  if key = name then (readOnce field key (read o)).map some else .ok field

theorem readField_self :
    readField name read field name o = (readOnce field name (read o)).map some :=
  if_pos rfl

theorem readField_of_ne (ne : key ≠ name) : readField name read field key o = .ok field :=
  if_neg ne

theorem readField_eq_ok_iff :
    readField name read field key o = .ok field' ↔
      (key = name ∧ field = none ∧ ∃ a, read o = .ok a ∧ some a = field') ∨
      (key ≠ name ∧ field = field') := by
  by_cases same : key = name
  · subst same
    simp [readField_self, map_eq_ok_iff, readOnce_eq_ok_iff, and_assoc]
  · simp [readField_of_ne same, same]

theorem orderFree_readField (name : String) (read : Outline → Except Fault α) :
    OrderFree (readField name read) := by
  intro field _ field' k o k' o' first second
  simp only [readField_eq_ok_iff] at first second ⊢
  rcases first with ⟨rfl, rfl, a, reads, rfl⟩ | ⟨other, rfl⟩
  · rcases second with ⟨-, taken, -⟩ | ⟨other, rfl⟩
    · cases taken
    · exact ⟨none, .inr ⟨other, rfl⟩, .inl ⟨rfl, rfl, a, reads, rfl⟩⟩
  · exact ⟨field', second, .inr ⟨other, rfl⟩⟩

end

/-! ## The records -/

section

variable {source : Source} {key : String} {o : Outline}

theorem readDimension_eq_ok_iff {slots slots' : Slots} :
    readDimension source slots key o = .ok slots' ↔
      ∃ d l, Dimension.ofName? key = some d ∧ slots d = none ∧ decode source o = .ok l ∧
        slots' = slots.set d l := by
  unfold readDimension
  cases Dimension.ofName? key with
  | none => simp
  | some d =>
      simp only [map_eq_ok_iff, readOnce_eq_ok_iff, Option.some.injEq, exists_and_left,
        exists_eq_left', and_assoc, eq_comm (b := slots')]

/-- A slot that is filled already would be refused, so two members go into two slots. -/
theorem orderFree_readDimension : OrderFree (readDimension source) := by
  intro slots _ _ k o k' o' first second
  obtain ⟨d, l, named, free, reads, rfl⟩ := readDimension_eq_ok_iff.1 first
  obtain ⟨d', l', named', free', reads', rfl⟩ := readDimension_eq_ok_iff.1 second
  have ne : d' ≠ d := by
    rintro rfl
    simp at free'
  rw [Slots.set_of_ne _ _ ne] at free'
  refine ⟨slots.set d' l', readDimension_eq_ok_iff.2 ⟨d', l', named', free', reads', rfl⟩,
    readDimension_eq_ok_iff.2 ⟨d, l, named, ?_, reads, ?_⟩⟩
  · rwa [Slots.set_of_ne _ _ ne.symm]
  · funext e
    simp only [Slots.set]
    split_ifs with isD' isD
    · exact absurd (isD'.symm.trans isD) ne
    · rfl
    · rfl
    · rfl

/-- A member of an entry is read into the three fields. -/
theorem readEntryMember_eq_ok_iff {s t : EntryFields} :
    readEntryMember source s key o = .ok t ↔
      readField "name" readString s.name key o = .ok t.name ∧
      readField "required_capabilities" (decode source) s.required key o = .ok t.required ∧
      readField "description" readOptionalString s.description key o = .ok t.description ∧
      (key ∉ entryShape.fields → o.isSound = true) := by
  obtain ⟨name, required, description⟩ := s
  obtain ⟨name', required', description'⟩ := t
  unfold readEntryMember
  -- one case for each field the key may name, and one for a key that names none
  split_ifs <;> grind [readField, map_eq_ok_iff, entryShape]

theorem orderFree_readEntryMember : OrderFree (readEntryMember source) := by
  intro s _ _ k o k' o' first second
  obtain ⟨name, required, description, sound⟩ := readEntryMember_eq_ok_iff.1 first
  obtain ⟨name', required', description', sound'⟩ := readEntryMember_eq_ok_iff.1 second
  obtain ⟨n, name', name⟩ := orderFree_readField _ _ name name'
  obtain ⟨r, required', required⟩ := orderFree_readField _ _ required required'
  obtain ⟨d, description', description⟩ := orderFree_readField _ _ description description'
  exact ⟨⟨n, r, d⟩, readEntryMember_eq_ok_iff.2 ⟨name', required', description', sound'⟩,
    readEntryMember_eq_ok_iff.2 ⟨name, required, description, sound⟩⟩

/-- A member of a logical path is read into the two fields. -/
theorem readLogicalMember_eq_ok_iff {s t : LogicalFields} :
    readLogicalMember s key o = .ok t ↔
      readField "namespace" readString s.space key o = .ok t.space ∧
      readField "key" readString s.key key o = .ok t.key ∧
      (key ∉ logicalShape.fields → o.isSound = true) := by
  obtain ⟨space, path⟩ := s
  obtain ⟨space', path'⟩ := t
  unfold readLogicalMember
  split_ifs <;> grind [readField, map_eq_ok_iff, logicalShape]

theorem orderFree_readLogicalMember : OrderFree readLogicalMember := by
  intro s _ _ k o k' o' first second
  obtain ⟨space, key, sound⟩ := readLogicalMember_eq_ok_iff.1 first
  obtain ⟨space', key', sound'⟩ := readLogicalMember_eq_ok_iff.1 second
  obtain ⟨n, space', space⟩ := orderFree_readField _ _ space space'
  obtain ⟨m, key', key⟩ := orderFree_readField _ _ key key'
  exact ⟨⟨n, m⟩, readLogicalMember_eq_ok_iff.2 ⟨space', key', sound'⟩,
    readLogicalMember_eq_ok_iff.2 ⟨space, key, sound⟩⟩

end

theorem inAnyOrder_profile (source : Source) : InAnyOrder (decodeProfile source) :=
  inAnyOrder_of_orderFree orderFree_readDimension fun _ => rfl

theorem inAnyOrder_entry (source : Source) : InAnyOrder (decodeEntry source) :=
  inAnyOrder_of_orderFree orderFree_readEntryMember fun _ => rfl

theorem inAnyOrder_logical (source : Source) : InAnyOrder (decodeLogical source) :=
  inAnyOrder_of_orderFree orderFree_readLogicalMember fun _ => rfl

end Wire

end Clearance

/-
# Clearance.Proofs.RecordReading -- reading the parts of a record

A record is read part by part: the items of an array from the front, the members of an object
into the fields they name.  What each part is read from is told here for values, where no
bracket is missing and every literal has a value (`Outline.isSound_ofValue`).

An item is read from the next value, and nothing may be left over
(`readItem_bind_eq_ok_iff`, `endItems_bind_eq_ok_iff`).  Of members with distinct keys a
field is read from the one under its name, wherever that stands, and stays empty if there
is none (`readMembers_readField`).
-/
import Clearance.Proofs.MemberOrder

namespace Clearance

open Clearance.Json

set_option autoImplicit false

namespace Json.Outline

mutual

/-- A value leaves nothing open and nothing unreadable. -/
theorem isSound_ofValue (v : Value) : (ofValue v).isSound = true := by
  cases v with
  | array items => rw [ofValue, isSound, areSound_ofItems items, Bool.and_self]
  | object members => rw [ofValue, isSound, membersAreSound_ofMembers members, Bool.and_self]
  | _ => rfl

theorem areSound_ofItems (items : List Value) : areSound (ofItems items) = true := by
  cases items with
  | nil => rfl
  | cons v vs => rw [ofItems, areSound, isSound_ofValue v, areSound_ofItems vs, Bool.and_self]

theorem membersAreSound_ofMembers (members : List (String × Value)) :
    membersAreSound (ofMembers members) = true := by
  cases members with
  | nil => rfl
  | cons m ms =>
      obtain ⟨k, v⟩ := m
      rw [ofMembers, membersAreSound, isSound_ofValue v, membersAreSound_ofMembers ms,
        Bool.and_self]

end

end Json.Outline

namespace Wire

section

variable {ε ε' α : Type} {x : Except ε α} {f : ε → ε'}

theorem mapError_eq_ok_iff {a : α} : x.mapError f = .ok a ↔ x = .ok a := by
  cases x <;> simp [Except.mapError]

theorem mapError_eq_error_iff {e : ε'} : x.mapError f = .error e ↔ ∃ d, x = .error d ∧ f d = e := by
  cases x <;> simp [Except.mapError]

end

/-- What a value is found to be. -/
def Found.ofValue : Value → Found
  | .null => null
  | .bool b => bool b
  | .number n => number n
  | .string s => string s
  | .array _ => sequence
  | .object _ => map

theorem unexpected_ofValue (v : Value) (expected : Expectation) :
    Fault.unexpected (Outline.ofValue v) expected =
      .mismatch (.wrongType (Found.ofValue v) expected) := by
  cases v <;> rfl

/-! ## Strings -/

theorem readString_eq_ok_iff {v : Value} {s : String} :
    readString (Outline.ofValue v) = .ok s ↔ v = .string s := by
  cases v <;> simp [Outline.ofValue, readString]

/-- Where no string stands, that is the fault. -/
theorem readString_of_not_string {v : Value} (other : ∀ s, v ≠ .string s) :
    readString (Outline.ofValue v) = .error (.mismatch (.wrongType (Found.ofValue v) .string)) := by
  rw [← unexpected_ofValue]
  cases v with
  | string s => exact absurd rfl (other s)
  | _ => rfl

theorem decode_label_eq_ok_iff {source : Source} {v : Value} {l : Label} :
    decode source (Outline.ofValue v) = .ok l ↔ v = .string l.text := by
  show (readString (Outline.ofValue v)).map Label.mk = .ok l ↔ _
  rw [map_eq_ok_iff]
  constructor
  · rintro ⟨s, read, rfl⟩
    exact readString_eq_ok_iff.1 read
  · intro written
    exact ⟨l.text, readString_eq_ok_iff.2 written, rfl⟩

/-- A string, or null for none. -/
def optionalString : Option String → Value
  | none => .null
  | some s => .string s

theorem readOptionalString_eq_ok_iff {v : Value} {s : Option String} :
    readOptionalString (Outline.ofValue v) = .ok s ↔ v = optionalString s := by
  cases v <;> cases s <;>
    simp [Outline.ofValue, readOptionalString, readString, optionalString, Except.map]

/-! ## Items -/

section

variable {α β : Type} {read : Outline → Except Fault α} {items : List Value} {b : β}

/-- An item is read from the front of an array, which must not be at its end. -/
theorem readItem_bind_eq_ok_iff {shape : Shape} {place : Nat}
    {next : α × List Outline → Except Fault β} :
    readItem shape true place read (Outline.ofItems items) >>= next = .ok b ↔
      ∃ v vs a, items = v :: vs ∧ read (Outline.ofValue v) = .ok a ∧
        next (a, Outline.ofItems vs) = .ok b := by
  refine bind_eq_ok_iff.trans ?_
  cases items with
  | nil => simp [Outline.ofItems, readItem]
  | cons v vs => simp [Outline.ofItems, readItem, map_eq_ok_iff]

/-- At the end of an array an item may be absent. -/
theorem readItemOr_bind_eq_ok_iff {absent : α} {next : α × List Outline → Except Fault β} :
    readItemOr absent true read (Outline.ofItems items) >>= next = .ok b ↔
      (items = [] ∧ next (absent, Outline.ofItems []) = .ok b) ∨
      ∃ v vs a, items = v :: vs ∧ read (Outline.ofValue v) = .ok a ∧
        next (a, Outline.ofItems vs) = .ok b := by
  refine bind_eq_ok_iff.trans ?_
  cases items with
  | nil => simp [Outline.ofItems, readItemOr]
  | cons v vs => simp [Outline.ofItems, readItemOr, map_eq_ok_iff]

/-- Nothing may be left over. -/
theorem endItems_bind_eq_ok_iff {source : Source} {length : Nat} {next : Unit → Except Fault β} :
    endItems source true length (Outline.ofItems items) >>= next = .ok b ↔
      items = [] ∧ next () = .ok b := by
  cases items with
  | nil => simp [Outline.ofItems, endItems, bind, Except.bind]
  | cons v vs => cases source <;> simp [Outline.ofItems, endItems, bind, Except.bind]

end

/-! ## Members -/

/-- The members of a value are read one after the other. -/
theorem readMembers_ofMembers_cons_eq_ok_iff {σ : Type}
    {readMember : σ → String → Outline → Except Fault σ} {s t : σ} {key : String} {v : Value}
    {members : List (String × Value)} :
    readMembers readMember true s (Outline.ofMembers ((key, v) :: members)) = .ok t ↔
      ∃ u, readMember s key (Outline.ofValue v) = .ok u ∧
        readMembers readMember true u (Outline.ofMembers members) = .ok t := by
  rw [Outline.ofMembers, readMembers]
  exact bind_eq_ok_iff

/-! ## Fields -/

section

variable {α : Type} {name : String} {read : Outline → Except Fault α}

/-- Members under other keys leave a field as it is. -/
theorem readMembers_readField_of_absent {members : List (String × Value)} {field : Option α}
    (absent : name ∉ members.map Prod.fst) :
    readMembers (readField name read) true field (Outline.ofMembers members) = .ok field := by
  induction members with
  | nil => rfl
  | cons m ms ih =>
      obtain ⟨key, v⟩ := m
      obtain ⟨other, others⟩ := not_or.1 (mt List.mem_cons.2 absent)
      rw [Outline.ofMembers, readMembers, readField_of_ne (Ne.symm other)]
      exact ih others

/-- Of members with distinct keys a field is read from the one under its name. -/
theorem readMembers_readField {members : List (String × Value)}
    (distinct : (members.map Prod.fst).Nodup) :
    readMembers (readField name read) true none (Outline.ofMembers members) =
      match members.lookup name with
      | none => .ok none
      | some v => (read (Outline.ofValue v)).map some := by
  induction members with
  | nil => rfl
  | cons m ms ih =>
      obtain ⟨key, v⟩ := m
      obtain ⟨alone, distinct⟩ := List.nodup_cons.1 distinct
      rw [Outline.ofMembers, readMembers]
      by_cases same : key = name
      · subst same
        rw [readField_self, readOnce, List.lookup_cons_self]
        dsimp only
        cases read (Outline.ofValue v) with
        | error fault => rfl
        | ok a => exact readMembers_readField_of_absent alone
      · rw [readField_of_ne same, List.lookup_cons, beq_false_of_ne (Ne.symm same)]
        exact ih distinct

/-- A field that has to be given is read from the member under its name. -/
theorem readMembers_readField_eq_some_iff {members : List (String × Value)} {a : α}
    (distinct : (members.map Prod.fst).Nodup) :
    readMembers (readField name read) true none (Outline.ofMembers members) = .ok (some a) ↔
      ∃ v, members.lookup name = some v ∧ read (Outline.ofValue v) = .ok a := by
  rw [readMembers_readField distinct]
  cases members.lookup name <;> simp [map_eq_ok_iff]

/-- A field that need not be given has a default where its name is no key. -/
theorem readMembers_readField_getD_iff {members : List (String × Value)} {a default : α}
    (distinct : (members.map Prod.fst).Nodup) :
    (∃ field, readMembers (readField name read) true none (Outline.ofMembers members) =
        .ok field ∧ field.getD default = a) ↔
      members.lookup name = none ∧ a = default ∨
      ∃ v, members.lookup name = some v ∧ read (Outline.ofValue v) = .ok a := by
  rw [readMembers_readField distinct]
  cases members.lookup name with
  | none => simp [eq_comm]
  | some v => simp [map_eq_ok_iff]

end

end Wire

end Clearance

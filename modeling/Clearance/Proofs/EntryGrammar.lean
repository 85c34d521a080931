/-
# Clearance.Proofs.EntryGrammar -- which values are command entries

An entry is read from an object with a profile under `required_capabilities`, where there
is a `name` a string under it, where there is a `description` a string or null, and
whatever it likes under other keys; or from an array of a name, a profile and where it is
given a description (`WritesEntry`, `decodeEntry_canonical_eq_ok_iff`).

Reading a member of an entry is reading it into each of the three fields, so the members
are read as often as there are fields, each time for one of them
(`readMembers_readEntryMember_eq_ok_iff`).
-/
import Clearance.Proofs.ProfileGrammar

namespace Clearance

open Clearance.Json

set_option autoImplicit false

namespace Wire

variable {source : Source} {members : List (String × Value)} {e : Entry}

/-- A value that an entry is read from. -/
inductive WritesEntry (e : Entry) : Value → Prop
  | object {members : List (String × Value)}
      (name : members.lookup "name" = none ∧ e.name = "" ∨
        members.lookup "name" = some (.string e.name))
      (required : ∃ w, members.lookup "required_capabilities" = some w ∧
        WritesProfile e.required w)
      (description : members.lookup "description" = none ∧ e.description = none ∨
        members.lookup "description" = some (optionalString e.description)) :
      WritesEntry e (.object members)
  | pair {w : Value} (required : WritesProfile e.required w) (undescribed : e.description = none) :
      WritesEntry e (.array [.string e.name, w])
  | triple {w : Value} (required : WritesProfile e.required w) :
      WritesEntry e (.array [.string e.name, w, optionalString e.description])

/-! ## Objects -/

/-- The members of an entry are read into its three fields, each by itself. -/
theorem readMembers_readEntryMember_eq_ok_iff {s t : EntryFields} :
    readMembers (readEntryMember source) true s (Outline.ofMembers members) = .ok t ↔
      readMembers (readField "name" readString) true s.name (Outline.ofMembers members) =
        .ok t.name ∧
      readMembers (readField "required_capabilities" (decode source)) true s.required
        (Outline.ofMembers members) = .ok t.required ∧
      readMembers (readField "description" readOptionalString) true s.description
        (Outline.ofMembers members) = .ok t.description := by
  induction members generalizing s with
  | nil =>
      obtain ⟨name, required, description⟩ := s
      obtain ⟨name', required', description'⟩ := t
      simp [Outline.ofMembers, readMembers]
  | cons m ms ih =>
      obtain ⟨key, v⟩ := m
      -- what stands under a key that names no field is passed over, because it is sound
      have sound := Outline.isSound_ofValue v
      simp only [readMembers_ofMembers_cons_eq_ok_iff, readEntryMember_eq_ok_iff, sound,
        implies_true, and_true, ih]
      constructor
      · rintro ⟨u, ⟨name, required, description⟩, name', required', description'⟩
        exact ⟨⟨u.name, name, name'⟩, ⟨u.required, required, required'⟩,
          ⟨u.description, description, description'⟩⟩
      · rintro ⟨⟨n, name, name'⟩, ⟨r, required, required'⟩, ⟨d, description, description'⟩⟩
        exact ⟨⟨n, r, d⟩, ⟨name, required, description⟩, name', required', description'⟩

/-- An entry needs its profile and has defaults for the rest. -/
theorem entry_eq_ok_iff {s : EntryFields} :
    s.entry = .ok e ↔
      s.required = some e.required ∧ s.name.getD "" = e.name ∧
        s.description.getD none = e.description := by
  obtain ⟨name, required, description⟩ := s
  obtain ⟨name', required', description'⟩ := e
  cases required with
  | none => simp [EntryFields.entry, Wire.required, Except.map]
  | some p => simp [EntryFields.entry, Wire.required, Except.map, and_left_comm]

theorem decodeEntry_object_eq_ok_iff (distinct : (members.map Prod.fst).Nodup) :
    decodeEntry source (Outline.ofValue (.object members)) = .ok e ↔
      WritesEntry e (.object members) := by
  have fields : decodeEntry source (Outline.ofValue (.object members)) = .ok e ↔
      (∃ name, readMembers (readField "name" readString) true none (Outline.ofMembers members) =
        .ok name ∧ name.getD "" = e.name) ∧
      readMembers (readField "required_capabilities" (decode source)) true none
        (Outline.ofMembers members) = .ok (some e.required) ∧
      ∃ description, readMembers (readField "description" readOptionalString) true none
        (Outline.ofMembers members) = .ok description ∧
        description.getD none = e.description := by
    rw [Outline.ofValue, decodeEntry, bind_eq_ok_iff]
    simp only [readMembers_readEntryMember_eq_ok_iff, entry_eq_ok_iff]
    constructor
    · rintro ⟨s, ⟨name, required, description⟩, given, named, described⟩
      exact ⟨⟨_, name, named⟩, given ▸ required, _, description, described⟩
    · rintro ⟨⟨n, name, named⟩, required, d, description, described⟩
      exact ⟨⟨n, some e.required, d⟩, ⟨name, required, description⟩, rfl, named, described⟩
  rw [fields, readMembers_readField_getD_iff distinct, readMembers_readField_getD_iff distinct,
    readMembers_readField_eq_some_iff distinct]
  simp only [readString_eq_ok_iff, readOptionalString_eq_ok_iff, decode_profile_eq_ok_iff,
    exists_eq_right]
  constructor
  · rintro ⟨name, required, description⟩
    exact .object name required description
  · rintro ⟨name, required, description⟩
    exact ⟨name, required, description⟩

/-! ## Arrays -/

theorem decodeEntry_array_eq_ok_iff {items : List Value} :
    decodeEntry source (Outline.ofValue (.array items)) = .ok e ↔
      WritesEntry e (.array items) := by
  simp only [Outline.ofValue, decodeEntry, readEntryItems, readItem_bind_eq_ok_iff,
    readItemOr_bind_eq_ok_iff, endItems_bind_eq_ok_iff, readString_eq_ok_iff,
    readOptionalString_eq_ok_iff, decode_profile_eq_ok_iff]
  constructor
  · rintro (⟨-, _, _, _, ⟨⟩, -⟩ | ⟨_, _, name, rfl, rfl, w, _, required, rfl, writes, described⟩)
    rcases described with ⟨rfl, -, made⟩ | ⟨_, _, description, rfl, rfl, rfl, made⟩
    · cases made
      exact .pair writes rfl
    · cases made
      exact .triple writes
  · obtain ⟨name, required, description⟩ := e
    rintro (_ | ⟨writes, rfl⟩ | writes)
    · exact .inr ⟨_, _, name, rfl, rfl, _, _, required, rfl, writes, .inl ⟨rfl, trivial, rfl⟩⟩
    · exact .inr ⟨_, _, name, rfl, rfl, _, _, required, rfl, writes,
        .inr ⟨_, _, description, rfl, rfl, rfl, rfl⟩⟩

/-- An entry is read from what is written of it, and from nothing else. -/
theorem decodeEntry_canonical_eq_ok_iff {v : Value} :
    decodeEntry source (Outline.ofValue v.canonical) = .ok e ↔ WritesEntry e v.canonical := by
  cases same : v.canonical with
  | object members => exact decodeEntry_object_eq_ok_iff (Value.nodup_keys_of_canonical_eq same)
  | array items => exact decodeEntry_array_eq_ok_iff
  | _ => exact ⟨nofun, nofun⟩

/-! ## All of them -/

/-- **Profiles, contexts and entries are read from exactly what is written of them**.  Of an
object that is refused as a profile the least key with a fault is told, and only where no
key has one the first dimension that is missing. -/
theorem records_read_exactly :
    (∀ (v : Value) (p : Profile), ofValue Profile v = .ok p ↔ WritesProfile p v) ∧
    (∀ v : Value, ofValue Context v = (ofValue Profile v).map Context.mk) ∧
    (∀ (v : Value) (members : List (String × Value)) (f : Fault), v.canonical = .object members →
      (ofValue Profile v.canonical = .error f ↔ ObjectFault members f)) ∧
    ∀ (v : Value) (e : Entry), ofValue Entry v.canonical = .ok e ↔ WritesEntry e v.canonical := by
  refine ⟨fun v p => decode_profile_eq_ok_iff, fun v => rfl, fun v members f same => ?_,
    fun v e => decodeEntry_canonical_eq_ok_iff⟩
  rw [same]
  exact decodeProfile_ascending_eq_error_iff (Value.ascending_of_canonical_eq same)

/-- An object that lacks three dimensions and has two faults, the latter of them under the
lesser key. -/
def misnamed : Value :=
  .object [("host", .string "laptop"), ("runtime", .null), ("access", .string "all")]

theorem misnamed_read_exactly :
    misnamed.canonical =
      .object [("access", .string "all"), ("host", .string "laptop"), ("runtime", .null)] ∧
    ObjectFault [("access", .string "all"), ("host", .string "laptop"), ("runtime", .null)]
      (.mismatch (.unknownField "access" dimensionNames)) :=
  ⟨rfl, (records_read_exactly.2.2.1 misnamed _ _ rfl).1 rfl⟩

end Wire

end Clearance

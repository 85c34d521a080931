/-
# Clearance.Proofs.ProfileGrammar -- which values are profiles

A profile is read from an object with the five dimensions as keys, in any order, and texts
under them, or from the array of these texts in canonical order, and from nothing else
(`WritesProfile`, `decodeProfile_eq_ok_iff`).

An object is read member by member.  A member has a fault when its key is no dimension or
its value no string (`MemberFault`), and the first fault is told; that a dimension is
missing only where there is none (`decodeProfile_object_eq_error_iff`).  Keys have to be
distinct for this, as those of a value are, and of a value the first fault is the one under
the least key (`ObjectFault`, `decodeProfile_ascending_eq_error_iff`).
-/
import Clearance.Proofs.ByteOrder
import Clearance.Proofs.RecordReading

namespace Clearance

open Clearance.Json

set_option autoImplicit false

/-- What is wrong with named labels, as it is reported of JSON. -/
def ProfileError.fault : ProfileError → Wire.Fault
  | missing d => .mismatch (.missingField d.name)
  | unknown name => .mismatch (.unknownField name Wire.dimensionNames)

theorem ProfileError.fault_injective {cause other : ProfileError}
    (same : cause.fault = other.fault) : cause = other := by
  cases cause <;> cases other <;> simp_all [fault, Dimension.name_inj]

namespace Wire

variable {source : Source} {slots slots' : Slots} {members : List (String × Value)} {p : Profile}

/-! ## Names and slots -/

theorem mem_dimensionNames_iff {key : String} :
    key ∈ dimensionNames ↔ ∃ d : Dimension, d.name = key := by
  simp [dimensionNames, Dimension.mem_all]

theorem ofName?_eq_none_iff {key : String} :
    Dimension.ofName? key = none ↔ key ∉ dimensionNames := by
  rw [mem_dimensionNames_iff, not_exists, Dimension.ofName?_eq_none_iff]

/-- A slot that is filled leaves those of other names as they were. -/
theorem free_set {d : Dimension} {names : List String} (alone : d.name ∉ names)
    (free : ∀ e : Dimension, e.name ∈ d.name :: names → slots e = none) (l : Label)
    (e : Dimension) (later : e.name ∈ names) : slots.set d l e = none := by
  have ne : e ≠ d := fun same => alone (same ▸ later)
  rw [Slots.set_of_ne slots l ne]
  exact free e (List.mem_cons_of_mem _ later)

/-- Slots that have to be filled are those of a profile, or the same one is missing. -/
theorem requireAll_eq (slots : Slots) :
    requireAll slots = (Profile.ofSlots slots).mapError ProfileError.fault := by
  simp only [requireAll, Profile.ofSlots, Profile.ofSlots.fill]
  cases slots .host with
  | none => rfl
  | some host =>
  cases slots .context with
  | none => rfl
  | some context =>
  cases slots .runtime with
  | none => rfl
  | some runtime =>
  cases slots .command with
  | none => rfl
  | some command =>
  cases slots .financial with
  | none => rfl
  | some financial => rfl

theorem requireAll_eq_ok_iff : requireAll slots = .ok p ↔ ∀ d, slots d = some (p.get d) := by
  rw [requireAll_eq, mapError_eq_ok_iff, Profile.ofSlots_eq_ok_iff]

theorem requireAll_eq_error_iff {f : Fault} :
    requireAll slots = .error f ↔
      ∃ d : Dimension, .mismatch (.missingField d.name) = f ∧ slots d = none ∧
        ∀ e : Dimension, e.index < d.index → slots e ≠ none := by
  rw [requireAll_eq, mapError_eq_error_iff]
  constructor
  · rintro ⟨cause, failed, rfl⟩
    obtain ⟨d, rfl, first⟩ := Profile.ofSlots_eq_error_iff.1 failed
    exact ⟨d, rfl, first⟩
  · rintro ⟨d, rfl, first⟩
    exact ⟨.missing d, Profile.ofSlots_eq_error_iff.2 ⟨d, rfl, first⟩, rfl⟩

/-! ## Objects that are read -/

/-- A member is read into the empty slot of its dimension. -/
theorem readDimension_ofValue_eq_ok_iff {key : String} {v : Value} :
    readDimension source slots key (Outline.ofValue v) = .ok slots' ↔
      ∃ (d : Dimension) (l : Label), d.name = key ∧ v = .string l.text ∧ slots d = none ∧
        slots' = slots.set d l := by
  simp only [readDimension_eq_ok_iff, Dimension.ofName?_eq_some_iff, decode_label_eq_ok_iff]
  constructor
  · rintro ⟨d, l, named, free, text, filled⟩
    exact ⟨d, l, named, text, free, filled⟩
  · rintro ⟨d, l, named, text, free, filled⟩
    exact ⟨d, l, named, free, text, filled⟩

/-- What members that are read establish: each has a dimension of its own as key and a text
under it, and these are the labels that were added to the slots. -/
theorem slots_of_readMembers
    (read : readMembers (readDimension source) true slots (Outline.ofMembers members) =
      .ok slots') :
    (members.map Prod.fst).Nodup ∧
    (∀ m ∈ members, ∃ (d : Dimension) (l : Label), m = (d.name, .string l.text) ∧ slots d = none) ∧
    ∀ (d : Dimension) (l : Label),
      slots' d = some l ↔ slots d = some l ∨ (d.name, .string l.text) ∈ members := by
  induction members generalizing slots with
  | nil =>
      cases read
      simp
  | cons m ms ih =>
      obtain ⟨key, v⟩ := m
      obtain ⟨u, first, rest⟩ := readMembers_ofMembers_cons_eq_ok_iff.1 read
      obtain ⟨d, l, rfl, rfl, free, rfl⟩ := readDimension_ofValue_eq_ok_iff.1 first
      obtain ⟨distinct, texts, filled⟩ := ih rest
      -- the slot of `d` is taken, so no later member has its name
      have others : ∀ e, slots.set d l e = none → e ≠ d ∧ slots e = none := by
        intro e empty
        have ne : e ≠ d := by
          rintro rfl
          simp at empty
        exact ⟨ne, Slots.set_of_ne slots l ne ▸ empty⟩
      refine ⟨List.nodup_cons.2 ⟨fun again => ?_, distinct⟩, fun m member => ?_, fun e k => ?_⟩
      · obtain ⟨m, member, named⟩ := List.mem_map.1 again
        obtain ⟨e, k, rfl, empty⟩ := texts m member
        exact (others e empty).1 (Dimension.name_injective named)
      · rcases List.mem_cons.1 member with rfl | later
        · exact ⟨d, l, rfl, free⟩
        · obtain ⟨e, k, rfl, empty⟩ := texts m later
          exact ⟨e, k, rfl, (others e empty).2⟩
      · rw [filled, List.mem_cons]
        by_cases same : e = d
        · subst same
          simp [free, Label.text_inj, eq_comm]
        · simp [Slots.set_of_ne slots l same, Dimension.name_inj, same]

/-- The slots that stay empty are those no member has the name of. -/
theorem empty_slot_of_readMembers {d : Dimension}
    (read : readMembers (readDimension source) true Slots.empty (Outline.ofMembers members) =
      .ok slots) :
    slots d = none ↔ d.name ∉ members.map Prod.fst := by
  obtain ⟨-, texts, labels⟩ := slots_of_readMembers read
  rw [← not_iff_not, not_not, ← ne_eq, Option.ne_none_iff_exists', List.mem_map]
  constructor
  · rintro ⟨l, filled⟩
    exact ⟨_, ((labels d l).1 filled).resolve_left (by simp [Slots.empty]), rfl⟩
  · rintro ⟨m, member, named⟩
    obtain ⟨e, l, rfl, -⟩ := texts m member
    obtain rfl := Dimension.name_injective named
    exact ⟨l, (labels e l).2 (.inr member)⟩

/-! ## Profiles -/

/-- A value that a profile is read from: an object with a text under each dimension and
nothing else, or the array of these texts in canonical order. -/
inductive WritesProfile (p : Profile) : Value → Prop
  | object {members : List (String × Value)}
      (exact : members.Perm (Dimension.all.map fun d => (d.name, .string (p.get d).text))) :
      WritesProfile p (.object members)
  | array : WritesProfile p (.array (p.labels.map fun l => .string l.text))

theorem decodeProfile_object_eq_ok_iff :
    decodeProfile source (Outline.ofValue (.object members)) = .ok p ↔
      members.Perm (Dimension.all.map fun d => (d.name, .string (p.get d).text)) := by
  constructor
  · intro read
    obtain ⟨slots, read, filled⟩ := bind_eq_ok_iff.1 read
    obtain ⟨distinct, texts, labels⟩ := slots_of_readMembers read
    rw [requireAll_eq_ok_iff] at filled
    have fields : (Dimension.all.map fun d => (d.name, Value.string (p.get d).text)).Nodup :=
      List.Nodup.of_map Prod.fst nodup_dimensionNames
    refine (List.perm_ext_iff_of_nodup distinct.of_map fields).2 fun m => ?_
    simp only [filled, Slots.empty, reduceCtorEq, false_or, Option.some.injEq] at labels
    rw [List.mem_map]
    constructor
    · intro member
      obtain ⟨d, l, rfl, -⟩ := texts m member
      exact ⟨d, Dimension.mem_all d, by rw [(labels d l).2 member]⟩
    · rintro ⟨d, -, rfl⟩
      exact (labels d (p.get d)).1 rfl
  · intro exact
    have written : decodeProfile source (Outline.ofValue
        (.object (Dimension.all.map fun d => (d.name, .string (p.get d).text)))) = .ok p := rfl
    rw [Outline.ofValue, Outline.ofMembers_eq_map] at written ⊢
    exact inAnyOrder_profile source (exact.symm.map _) written

theorem decodeProfile_array_eq_ok_iff {items : List Value} :
    decodeProfile source (Outline.ofValue (.array items)) = .ok p ↔
      items = p.labels.map fun l => .string l.text := by
  simp only [Outline.ofValue, decodeProfile, readLabels, readItem_bind_eq_ok_iff,
    endItems_bind_eq_ok_iff, decode_label_eq_ok_iff]
  constructor
  · rintro ⟨_, _, host, rfl, rfl, _, _, context, rfl, rfl, _, _, runtime, rfl, rfl, _, _, command,
      rfl, rfl, _, _, financial, rfl, rfl, rfl, made⟩
    cases made
    rfl
  · rintro rfl
    exact ⟨_, _, p.host, rfl, rfl, _, _, p.context, rfl, rfl, _, _, p.runtime, rfl, rfl, _, _,
      p.command, rfl, rfl, _, _, p.financial, rfl, rfl, rfl, rfl⟩

/-- A profile is read from what is written of it, and from nothing else. -/
theorem decodeProfile_eq_ok_iff {v : Value} :
    decodeProfile source (Outline.ofValue v) = .ok p ↔ WritesProfile p v := by
  constructor
  · intro read
    cases v with
    | object members => exact .object (decodeProfile_object_eq_ok_iff.1 read)
    | array items => exact decodeProfile_array_eq_ok_iff.1 read ▸ .array
    | _ => cases read
  · rintro (exact | _)
    · exact decodeProfile_object_eq_ok_iff.2 exact
    · exact decodeProfile_array_eq_ok_iff.2 rfl

theorem decode_profile_eq_ok_iff {v : Value} :
    decode source (Outline.ofValue v) = .ok p ↔ WritesProfile p v :=
  decodeProfile_eq_ok_iff

/-! ## Objects that are refused -/

/-- The fault of a member that has no place in a profile's object. -/
inductive MemberFault : String × Value → Fault → Prop
  | unknown {key : String} {v : Value} (unnamed : key ∉ dimensionNames) :
      MemberFault (key, v) (.mismatch (.unknownField key dimensionNames))
  | notString {key : String} {v : Value} (named : key ∈ dimensionNames)
      (noText : ∀ s, v ≠ .string s) :
      MemberFault (key, v) (.mismatch (.wrongType (Found.ofValue v) .string))

/-- The fault of a member, if there is one. -/
def memberFault? : String × Value → Option Fault
  | (key, v) =>
      if key ∈ dimensionNames then
        match v with
        | .string _ => none
        | v => some (.mismatch (.wrongType (Found.ofValue v) .string))
      else some (.mismatch (.unknownField key dimensionNames))

theorem memberFault?_eq_some_iff {m : String × Value} {f : Fault} :
    memberFault? m = some f ↔ MemberFault m f := by
  obtain ⟨key, v⟩ := m
  by_cases named : key ∈ dimensionNames
  · constructor
    · intro faulty
      cases v <;> simp only [memberFault?, if_pos named, reduceCtorEq, Option.some.injEq] at faulty
      all_goals exact faulty ▸ .notString named (by simp)
    · rintro (unnamed | ⟨-, noText⟩)
      · exact absurd named unnamed
      · cases v with
        | string s => exact absurd rfl (noText s)
        | _ => simp only [memberFault?, if_pos named]
  · constructor
    · intro faulty
      simp only [memberFault?, if_neg named, Option.some.injEq] at faulty
      exact faulty ▸ .unknown named
    · rintro (_ | ⟨known, -⟩)
      · simp only [memberFault?, if_neg named]
      · exact absurd known named

/-- A member is read into a free slot, unless it has a fault. -/
theorem readDimension_eq_error_iff {key : String} {v : Value} {f : Fault}
    (free : ∀ d : Dimension, d.name = key → slots d = none) :
    readDimension source slots key (Outline.ofValue v) = .error f ↔
      memberFault? (key, v) = some f := by
  by_cases named : key ∈ dimensionNames
  · obtain ⟨d, rfl⟩ := mem_dimensionNames_iff.1 named
    have read : readDimension source slots d.name (Outline.ofValue v) =
        ((readString (Outline.ofValue v)).map Label.mk).map (slots.set d) := by
      rw [readDimension, Dimension.ofName?_name]
      dsimp only
      rw [free d rfl]
      rfl
    simp only [read, memberFault?, if_pos named]
    cases v with
    | string s => exact ⟨nofun, nofun⟩
    | _ =>
        rw [readString_of_not_string (by simp)]
        simp only [Except.map, Except.error.injEq, Option.some.injEq]
  · rw [readDimension, ofName?_eq_none_iff.2 named]
    simp only [memberFault?, if_neg named, Except.error.injEq, Option.some.injEq]

/-- Members with distinct keys are read into free slots up to the first fault. -/
theorem readMembers_readDimension_eq_error_iff {f : Fault}
    (distinct : (members.map Prod.fst).Nodup)
    (free : ∀ d : Dimension, d.name ∈ members.map Prod.fst → slots d = none) :
    readMembers (readDimension source) true slots (Outline.ofMembers members) = .error f ↔
      members.findSome? memberFault? = some f := by
  induction members generalizing slots with
  | nil => exact ⟨nofun, nofun⟩
  | cons m ms ih =>
      obtain ⟨key, v⟩ := m
      obtain ⟨alone, others⟩ := List.nodup_cons.1 distinct
      have first : ∀ f, readDimension source slots key (Outline.ofValue v) = .error f ↔
          memberFault? (key, v) = some f := fun f =>
        readDimension_eq_error_iff fun d named => free d (named ▸ List.mem_cons_self ..)
      rw [Outline.ofMembers, readMembers, List.findSome?_cons]
      cases read : readDimension source slots key (Outline.ofValue v) with
      | error fault =>
          rw [(first fault).1 read]
          simp only [Except.bind, Except.error.injEq, Option.some.injEq]
      | ok slots' =>
          obtain ⟨d, l, rfl, -, -, rfl⟩ := readDimension_ofValue_eq_ok_iff.1 read
          have sound : memberFault? (d.name, v) = none := by
            refine Option.eq_none_iff_forall_ne_some.2 fun f faulty => ?_
            rw [(first f).2 faulty] at read
            cases read
          rw [sound]
          -- the slot of `d` is filled now, but no later member has its name
          exact ih others (free_set alone free l)

/-- That a dimension is missing is told where no member has a fault, and of the first one
that is no key. -/
theorem decodeProfile_object_eq_error_iff {f : Fault} (distinct : (members.map Prod.fst).Nodup) :
    decodeProfile source (Outline.ofValue (.object members)) = .error f ↔
      members.findSome? memberFault? = some f ∨
      members.findSome? memberFault? = none ∧
        ∃ d : Dimension, .mismatch (.missingField d.name) = f ∧ d.name ∉ members.map Prod.fst ∧
          ∀ e : Dimension, e.index < d.index → e.name ∈ members.map Prod.fst := by
  have faults : ∀ f, readMembers (readDimension source) true Slots.empty
      (Outline.ofMembers members) = .error f ↔ members.findSome? memberFault? = some f := fun f =>
    readMembers_readDimension_eq_error_iff distinct fun d _ => rfl
  rw [Outline.ofValue, decodeProfile]
  cases read : readMembers (readDimension source) true Slots.empty (Outline.ofMembers members) with
  | error fault =>
      rw [(faults fault).1 read]
      simp [Except.bind]
  | ok slots =>
      have sound : members.findSome? memberFault? = none := by
        refine Option.eq_none_iff_forall_ne_some.2 fun f faulty => ?_
        rw [(faults f).2 faulty] at read
        cases read
      rw [sound]
      have empty_iff : ∀ d : Dimension, slots d = none ↔ d.name ∉ members.map Prod.fst := fun d =>
        empty_slot_of_readMembers read
      simp only [Except.bind, requireAll_eq_error_iff, empty_iff, reduceCtorEq, false_or, true_and,
        ne_eq, not_not]

/-- What is wrong with an object that no profile is read from: of the members with a fault
the one with the least key, or if there are none the first missing dimension. -/
inductive ObjectFault (members : List (String × Value)) : Fault → Prop
  | member {m : String × Value} {f : Fault} (listed : m ∈ members) (faulty : MemberFault m f)
      (least : ∀ n ∈ members, Text.bytes n.1 < Text.bytes m.1 → ∀ g, ¬ MemberFault n g) :
      ObjectFault members f
  | missing {d : Dimension} (sound : ∀ m ∈ members, ∀ f, ¬ MemberFault m f)
      (absent : d.name ∉ members.map Prod.fst)
      (first : ∀ e : Dimension, e.index < d.index → e.name ∈ members.map Prod.fst) :
      ObjectFault members (.mismatch (.missingField d.name))

/-- In ascending order of the keys the first fault is the one under the least key. -/
theorem decodeProfile_ascending_eq_error_iff {f : Fault}
    (ascending : Ordered.Ascending compareKeys members) :
    decodeProfile source (Outline.ofValue (.object members)) = .error f ↔
      ObjectFault members f := by
  have none_iff : ∀ m, memberFault? m = none ↔ ∀ g, ¬ MemberFault m g := fun m => by
    simp only [Option.eq_none_iff_forall_ne_some, ne_eq, memberFault?_eq_some_iff]
  have order : ∀ m n : String × Value,
      compareKeys m n = .lt ↔ Text.bytes m.1 < Text.bytes n.1 := fun _ _ =>
    Text.bytes_lt_iff_compare.symm
  rw [decodeProfile_object_eq_error_iff (Ordered.nodup_map_of_ascending ascending),
    Ordered.findSome?_eq_some_iff_of_ascending ascending, List.findSome?_eq_none_iff]
  simp only [memberFault?_eq_some_iff, none_iff, order]
  constructor
  · rintro (⟨m, listed, faulty, least⟩ | ⟨sound, d, rfl, absent, first⟩)
    · exact .member listed faulty least
    · exact .missing sound absent first
  · rintro (⟨listed, faulty, least⟩ | ⟨sound, absent, first⟩)
    · exact .inl ⟨_, listed, faulty, least⟩
    · exact .inr ⟨sound, _, rfl, absent, first⟩

end Wire

end Clearance

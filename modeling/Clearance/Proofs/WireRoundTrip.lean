/-
# Clearance.Proofs.WireRoundTrip -- what is written is read back

Each type is written as JSON and read from it by two functions that know nothing of each
other.  For a type to come back unchanged three things have to hold (`LawfulCodec`): its
decoder undoes its encoder on the value as it was written, it does so when the members of
the objects were sorted, and no token of what is written needs its neighbour to tell
where it ends.

Then both ways are undone (`LawfulCodec.roundTrips`): the JSON value, which has no
order of members, and the compact text, which is in the order of the fields.  Types are
built of others, and so are their laws: a context takes them from its profile, and an
entry is read from any profile that is read.
-/
import Mathlib.Logic.Function.Basic
import Clearance.Proofs.MemberOrder
import Clearance.Proofs.ReadingBack

namespace Clearance.Wire

open Clearance.Json

set_option autoImplicit false

section

variable (α : Type) [Encode α] [Decode α]

/-- What is written is read back, as it was written and with its members sorted, and each
of its tokens ends by itself. -/
class LawfulCodec : Prop where
  decode_encode (source : Source) (a : α) : decode source (Outline.ofValue (encode a)) = .ok a
  decode_canonical (source : Source) (a : α) :
    decode source (Outline.ofValue (encode a).canonical) = .ok a
  delimited (a : α) : ∀ t ∈ (encode a).tokens, t.isDelimited = true

/-- A type comes back from its JSON value and from its compact text, so no two of its
values have one text. -/
structure RoundTrips : Prop where
  value (a : α) : ofValue α (toValue a) = .ok a
  text (a : α) : ofText α (toText a) = .ok a
  distinct : Function.Injective (toText : α → String)

variable {α}

theorem LawfulCodec.ofText_toText [LawfulCodec α] (a : α) : ofText α (toText a) = .ok a := by
  have outline : Outline.ofText (toText a) = (Outline.ofValue (encode a), false) :=
    Outline.ofText_render (delimited a)
  rw [ofText_of_outline outline, decode_encode]

theorem LawfulCodec.roundTrips [LawfulCodec α] : RoundTrips α where
  value a := decode_canonical .value a
  text := ofText_toText
  distinct a b same := by
    have read : (.ok a : Except Fault α) = .ok b := by
      rw [← ofText_toText a, same, ofText_toText b]
    exact Except.ok.inj read

end

/-! ## Texts and names -/

instance : LawfulCodec Label where
  decode_encode _ _ := rfl
  decode_canonical _ _ := rfl
  delimited _ := List.all_eq_true.1 rfl

instance : LawfulCodec HostPath where
  decode_encode _ _ := rfl
  decode_canonical _ _ := rfl
  delimited _ := List.all_eq_true.1 rfl

/-- A variant is read from its name. -/
theorem readVariant_string {α : Type} {names : List String} {named? : String → Option α}
    {name : String} {a : α} (named : named? name = some a) (source : Source) :
    readVariant names named? source (.string name) = .ok a := by
  rw [readVariant, variantNamed, named]

instance : LawfulCodec Dimension where
  decode_encode source d := readVariant_string d.ofName?_name source
  decode_canonical source d := readVariant_string d.ofName?_name source
  delimited _ := List.all_eq_true.1 rfl

instance : LawfulCodec Stage where
  decode_encode source s := readVariant_string s.ofName?_name source
  decode_canonical source s := readVariant_string s.ofName?_name source
  delimited _ := List.all_eq_true.1 rfl

instance : LawfulCodec Transition where
  decode_encode source t := readVariant_string t.ofName?_name source
  decode_canonical source t := readVariant_string t.ofName?_name source
  delimited _ := List.all_eq_true.1 rfl

/-! ## Records -/

instance : LawfulCodec Profile where
  decode_encode _ _ := rfl
  decode_canonical source p := by
    have distinct : ((Dimension.all.map fun d => (d.name, encode (p.get d))).map Prod.fst).Nodup :=
      nodup_dimensionNames
    exact (inAnyOrder_profile source).read_canonical distinct rfl
  delimited _ := List.all_eq_true.1 rfl

instance : LawfulCodec Context where
  decode_encode source c :=
    congrArg (Except.map Context.mk) (LawfulCodec.decode_encode source c.profile)
  decode_canonical source c :=
    congrArg (Except.map Context.mk) (LawfulCodec.decode_canonical source c.profile)
  delimited c := LawfulCodec.delimited c.profile

instance : LawfulCodec LogicalPath where
  decode_encode _ _ := rfl
  decode_canonical source p := by
    have distinct : ([("namespace", Value.string p.space), ("key", .string p.key)].map
        Prod.fst).Nodup := by simp
    exact (inAnyOrder_logical source).read_canonical distinct rfl
  delimited _ := List.all_eq_true.1 rfl

/-- The member of a name, if there is one. -/
def nameMember : Option String → List (String × Value)
  | none => []
  | some n => [("name", .string n)]

/-- The members of an entry with the name given, if any. -/
def entryMembers (name : Option String) (required : Value) (description : Option String) :
    List (String × Value) :=
  nameMember name ++ ("required_capabilities", required) :: descriptionMember description

theorem nodup_keys_entryMembers (name : Option String) (required : Value)
    (description : Option String) :
    ((entryMembers name required description).map Prod.fst).Nodup := by
  cases name <;> cases description <;> simp [entryMembers, nameMember, descriptionMember]

theorem canonicalMembers_entryMembers (name : Option String) (required : Value)
    (description : Option String) :
    Value.canonicalMembers (entryMembers name required description) =
      entryMembers name required.canonical description := by
  cases name <;> cases description <;> rfl

/-- An entry is read from its members, under the name given, or the empty one. -/
theorem decodeEntry_entryMembers {source : Source} {v : Value} {p : Profile}
    (required : decode source (Outline.ofValue v) = .ok p) (name description : Option String) :
    decodeEntry source (Outline.ofValue (.object (entryMembers name v description))) =
      .ok ⟨name.getD "", p, description⟩ := by
  cases name <;> cases description <;>
    simp [decodeEntry, entryMembers, nameMember, descriptionMember, Outline.ofValue,
      Outline.ofMembers, readMembers, readEntryMember, readOnce, readString, readOptionalString,
      required, Except.bind, Except.map, EntryFields.entry, Wire.required]

theorem decodeEntry_canonical_entryMembers {source : Source} (name : Option String) (p : Profile)
    (description : Option String) :
    decodeEntry source
        (Outline.ofValue (Value.object (entryMembers name (encode p) description)).canonical) =
      .ok ⟨name.getD "", p, description⟩ := by
  refine (inAnyOrder_entry source).read_canonical (nodup_keys_entryMembers ..) ?_
  rw [canonicalMembers_entryMembers]
  exact decodeEntry_entryMembers (LawfulCodec.decode_canonical source p) name description

instance : LawfulCodec Entry where
  decode_encode source e :=
    decodeEntry_entryMembers (LawfulCodec.decode_encode source e.required) (some e.name)
      e.description
  decode_canonical source e :=
    decodeEntry_canonical_entryMembers (some e.name) e.required e.description
  delimited e := by
    obtain ⟨name, required, description⟩ := e
    cases description <;> exact List.all_eq_true.1 rfl

/-- **Everything that is written is read back**, from its JSON value and from its compact
text, and no two values of a type have one text. -/
theorem everything_round_trips :
    RoundTrips Label ∧ RoundTrips Dimension ∧ RoundTrips Profile ∧ RoundTrips Context ∧
    RoundTrips Entry ∧ RoundTrips HostPath ∧ RoundTrips LogicalPath ∧ RoundTrips Stage ∧
    RoundTrips Transition :=
  ⟨LawfulCodec.roundTrips, LawfulCodec.roundTrips, LawfulCodec.roundTrips,
    LawfulCodec.roundTrips, LawfulCodec.roundTrips, LawfulCodec.roundTrips,
    LawfulCodec.roundTrips, LawfulCodec.roundTrips, LawfulCodec.roundTrips⟩

end Clearance.Wire

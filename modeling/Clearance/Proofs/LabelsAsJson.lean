/-
# Clearance.Proofs.LabelsAsJson -- named labels and the object that writes them

Named labels are made a profile one pair after the other, or they are written as a JSON
object (`written`) that is read as a profile.  Both tell a dimension by its name and fill
slots, but by steps of their own: placing a pair overwrites a slot and knows no other
trouble than the name, reading a member refuses a slot that is filled and a value that is
no string.  Where no name is repeated the two go side by side: reading a member is placing
its pair (`readDimension_string`), so both stop at the same name or fill the same slots, and
fail for corresponding reasons (`decodeProfile_written`).

Any text of the object has its members in the order of the pairs.  As a value it has them
by ascending key, which is the object of the same pairs in another order
(`canonical_written`).

The ways part where a name is repeated.  Of pairs the last one counts; an object that has a
key twice is no profile.
-/
import Clearance.Proofs.NamedLabels
import Clearance.Proofs.ProfileGrammar
import Clearance.Proofs.ReadingBack

namespace Clearance.Wire

open Clearance.Json

set_option autoImplicit false

variable {source : Source} {slots : Slots} {pairs : List (String × Label)}

/-- A named label as a member of an object. -/
def member (pair : String × Label) : String × Value :=
  (pair.1, .string pair.2.text)

/-- The object of named labels. -/
def written (pairs : List (String × Label)) : Value :=
  .object (pairs.map member)

theorem keys_written (pairs : List (String × Label)) :
    (pairs.map member).map Prod.fst = pairs.map Prod.fst := by
  rw [List.map_map]
  rfl

/-! ## Side by side -/

/-- A member is read into a free slot as its pair is placed. -/
theorem readDimension_string {name : String}
    (free : ∀ d : Dimension, d.name = name → slots d = none) (l : Label) :
    readDimension source slots name (.string l.text) =
      (Profile.place slots (name, l)).mapError ProfileError.fault := by
  cases known : Dimension.ofName? name with
  | none =>
      rw [readDimension, Profile.place_unknown known, known]
      rfl
  | some d =>
      obtain rfl := Dimension.ofName?_eq_some_iff.1 known
      rw [readDimension, Profile.place_name, known]
      dsimp only
      rw [free d rfl]
      rfl

/-- The members are read as the pairs are placed, if no two of them go into one slot. -/
theorem readMembers_written (distinct : (pairs.map Prod.fst).Nodup)
    (free : ∀ d : Dimension, d.name ∈ pairs.map Prod.fst → slots d = none) :
    readMembers (readDimension source) true slots (Outline.ofMembers (pairs.map member)) =
      (pairs.foldlM Profile.place slots).mapError ProfileError.fault := by
  induction pairs generalizing slots with
  | nil => rfl
  | cons pair pairs ih =>
      obtain ⟨name, l⟩ := pair
      obtain ⟨alone, others⟩ := List.nodup_cons.1 distinct
      rw [List.map_cons, member, Outline.ofMembers, readMembers, Outline.ofValue,
        readDimension_string fun d named => free d (named ▸ List.mem_cons_self ..),
        List.foldlM_cons]
      cases known : Dimension.ofName? name with
      | none =>
          rw [Profile.place_unknown known]
          rfl
      | some d =>
          obtain rfl := Dimension.ofName?_eq_some_iff.1 known
          rw [Profile.place_name]
          exact ih others (free_set alone free l)

/-- **The object is read as the pairs are made a profile**, where no name is repeated. -/
theorem decodeProfile_written (distinct : (pairs.map Prod.fst).Nodup) :
    decodeProfile source (Outline.ofValue (written pairs)) =
      (Profile.ofPairs pairs).mapError ProfileError.fault := by
  have members : readMembers (readDimension source) true Slots.empty
      (Outline.ofMembers (pairs.map member)) =
        (pairs.foldlM Profile.place Slots.empty).mapError ProfileError.fault :=
    readMembers_written distinct fun _ _ => rfl
  rw [written, Outline.ofValue, decodeProfile, members, Profile.ofPairs]
  cases pairs.foldlM Profile.place Slots.empty with
  | error cause => rfl
  | ok slots => exact requireAll_eq slots

/-! ## The object as a text and as a value -/

theorem delimited_memberTokens (pairs : List (String × Label)) :
    ∀ t ∈ Value.memberTokens (pairs.map member), t.isDelimited = true := by
  induction pairs with
  | nil => simp [Value.memberTokens, Token.isDelimited]
  | cons pair pairs ih =>
      simpa [member, Value.memberTokens, Value.tokens, Token.isDelimited] using ih

/-- The object is flat. -/
theorem depth_written (pairs : List (String × Label)) : (written pairs).depth = 1 := by
  have members : Value.membersDepth (pairs.map member) = 0 := by
    induction pairs with
    | nil => rfl
    | cons pair pairs ih => simpa [member, Value.membersDepth, Value.depth] using ih
  rw [written, Value.depth, members]

/-- The compact text of the object is a text of it. -/
theorem parse?_render_written (pairs : List (String × Label)) :
    Value.parse? (written pairs).render = some (written pairs) := by
  have shallow : (written pairs).depth < nestingLimit := by
    rw [depth_written]
    decide
  refine Value.parse?_render ?_ shallow
  cases pairs with
  | nil => simp [written, Value.tokens, Token.isDelimited]
  | cons pair pairs =>
      simpa [written, member, Value.tokens, Token.isDelimited] using delimited_memberTokens pairs

/-- A text of the object is read in the order of the pairs. -/
theorem ofText_of_written {text : String} (same : Value.parse? text = some (written pairs)) :
    ofText Profile text = decodeProfile .text (Outline.ofValue (written pairs)) :=
  ofText_of_outline (Value.parse?_eq_some_iff.1 same).1

/-- The pairs by ascending name; of several with one name, the last. -/
def byName (pairs : List (String × Label)) : List (String × Label) :=
  Ordered.ofList (compareOn Prod.fst) pairs

/-- As a value the object has the pairs by ascending name. -/
theorem canonical_written (pairs : List (String × Label)) :
    (written pairs).canonical = written (byName pairs) := by
  have members : Value.canonicalMembers (pairs.map member) = pairs.map member := by
    rw [Value.canonicalMembers_eq_map, List.map_map]
    rfl
  rw [written, Value.canonical, members, written, byName, Ordered.ofList_map]
  exact fun _ _ => rfl

/-- An object that has a key twice is no profile. -/
theorem decodeProfile_written_ne_ok (repeated : ¬ (pairs.map Prod.fst).Nodup) (p : Profile) :
    decodeProfile source (Outline.ofValue (written pairs)) ≠ .ok p := by
  intro read
  have keys := (decodeProfile_object_eq_ok_iff.1 read).map Prod.fst
  rw [keys_written] at keys
  exact repeated (keys.nodup_iff.2 nodup_dimensionNames)

/-! ## Agreement -/

/-- Pairs are made a profile where what is read is the same profile, and fail where reading
fails for the corresponding reason. -/
structure Alike (made : Except ProfileError Profile) (read : Except Fault Profile) : Prop where
  profile : ∀ p, made = .ok p ↔ read = .ok p
  unknown : ∀ name, made = .error (.unknown name) ↔
    read = .error (.mismatch (.unknownField name dimensionNames))
  missing : ∀ d : Dimension, made = .error (.missing d) ↔
    read = .error (.mismatch (.missingField d.name))

/-- The same, but for the choice among several unknown names. -/
structure AlikeButForName (pairs : List (String × Label)) (read : Except Fault Profile) :
    Prop where
  profile : ∀ p, Profile.ofPairs pairs = .ok p ↔ read = .ok p
  unknown : (∃ name, Profile.ofPairs pairs = .error (.unknown name)) ↔
    ∃ name, read = .error (.mismatch (.unknownField name dimensionNames))
  choice : ∀ name, read = .error (.mismatch (.unknownField name dimensionNames)) →
    name ∈ pairs.map Prod.fst ∧ ∀ d : Dimension, d.name ≠ name
  missing : ∀ d : Dimension, Profile.ofPairs pairs = .error (.missing d) ↔
    read = .error (.mismatch (.missingField d.name))

/-- Different reasons are told by different faults. -/
theorem mapError_fault_eq_error_iff {made : Except ProfileError Profile} (cause : ProfileError) :
    made.mapError ProfileError.fault = .error cause.fault ↔ made = .error cause := by
  rw [mapError_eq_error_iff]
  constructor
  · rintro ⟨other, failed, same⟩
    rwa [← ProfileError.fault_injective same]
  · exact fun failed => ⟨cause, failed, rfl⟩

theorem alike_mapError (made : Except ProfileError Profile) :
    Alike made (made.mapError ProfileError.fault) where
  profile _ := mapError_eq_ok_iff.symm
  unknown _ := (mapError_fault_eq_error_iff _).symm
  missing _ := (mapError_fault_eq_error_iff _).symm

theorem alikeButForName_canonical (distinct : (pairs.map Prod.fst).Nodup) :
    AlikeButForName pairs (ofValue Profile (written pairs).canonical) := by
  -- the value is read as the pairs in another order, which may name another unknown one first
  have perm : pairs.Perm (byName pairs) := (Ordered.ofList_perm distinct).symm
  have names := perm.map Prod.fst
  have read : ofValue Profile (written pairs).canonical =
      (Profile.ofPairs (byName pairs)).mapError ProfileError.fault := by
    rw [canonical_written]
    exact decodeProfile_written (names.nodup_iff.1 distinct)
  have alike := alike_mapError (Profile.ofPairs (byName pairs))
  rw [← read] at alike
  exact {
    profile := fun p => (Profile.ofPairs_eq_ok_iff_of_perm perm distinct).trans (alike.profile p)
    unknown := (Profile.exists_ofPairs_eq_unknown_iff_of_perm perm).trans
      (exists_congr alike.unknown)
    choice := fun name failed => by
      obtain ⟨listed, unknown⟩ := Profile.unknown_of_ofPairs ((alike.unknown name).2 failed)
      exact ⟨names.mem_iff.2 listed, unknown⟩
    missing := fun d => (Profile.ofPairs_eq_missing_iff_of_perm perm).trans (alike.missing d) }

/-- **Pairs and the object that writes them make the same profile** or fail alike, where no
name is repeated.  Where one is, no text of the object is a profile, and the pairs make one
with the last label of each name. -/
theorem pairs_and_objects_read_alike (pairs : List (String × Label)) :
    Value.parse? (written pairs).render = some (written pairs) ∧
    ((pairs.map Prod.fst).Nodup →
      (∀ text, Value.parse? text = some (written pairs) →
        Alike (Profile.ofPairs pairs) (ofText Profile text)) ∧
      AlikeButForName pairs (ofValue Profile (written pairs).canonical)) ∧
    (¬ (pairs.map Prod.fst).Nodup →
      (∀ text p, Value.parse? text = some (written pairs) → ofText Profile text ≠ .ok p) ∧
      ((∃ p, Profile.ofPairs pairs = .ok p) ↔
        (∀ name ∈ pairs.map Prod.fst, ∃ d : Dimension, d.name = name) ∧
          ∀ d : Dimension, d.name ∈ pairs.map Prod.fst) ∧
      ∀ p, Profile.ofPairs pairs = .ok p →
        ∀ d : Dimension, Profile.lastUnder? pairs d.name = some (p.get d)) := by
  refine ⟨parse?_render_written pairs, fun distinct => ⟨fun text same => ?_, ?_⟩,
    fun repeated => ⟨fun text p same => ?_, Profile.exists_ofPairs_eq_ok_iff, fun p made => ?_⟩⟩
  · rw [ofText_of_written same, decodeProfile_written distinct]
    exact alike_mapError _
  · exact alikeButForName_canonical distinct
  · rw [ofText_of_written same]
    exact decodeProfile_written_ne_ok repeated p
  · exact (Profile.ofPairs_eq_ok_iff.1 made).2

/-- Labels of which two are for no dimension, the first one not under the lesser name. -/
def strayed : List (String × Label) :=
  [("zone", ⟨"north"⟩), ("host", ⟨"laptop"⟩), ("area", ⟨"south"⟩)]

/-- Labels for all dimensions, one of them replaced. -/
def moved : List (String × Label) :=
  [("host", ⟨"laptop"⟩), ("context", ⟨"desk"⟩), ("runtime", ⟨"shell"⟩), ("command", ⟨"list"⟩),
    ("financial", ⟨"none"⟩), ("host", ⟨"server"⟩)]

/-- The first text is refused for the name that comes first in it, the second for one that
comes twice. -/
theorem strayed_and_moved_read :
    ofText Profile (written strayed).render =
      .error (.mismatch (.unknownField "zone" dimensionNames)) ∧
    (∃ name, ofValue Profile (written strayed).canonical =
      .error (.mismatch (.unknownField name dimensionNames))) ∧
    (∀ p, ofText Profile (written moved).render ≠ .ok p) ∧
    ∃ p, Profile.ofPairs moved = .ok p ∧ p.get .host = ⟨"server"⟩ := by
  have distinct : (strayed.map Prod.fst).Nodup := by decide
  have repeated : ¬ (moved.map Prod.fst).Nodup := by decide
  have unknown : Profile.ofPairs strayed = .error (.unknown "zone") := rfl
  obtain ⟨text, alike, -⟩ := pairs_and_objects_read_alike strayed
  obtain ⟨text', -, apart⟩ := pairs_and_objects_read_alike moved
  obtain ⟨texts, value⟩ := alike distinct
  obtain ⟨refused, -, labels⟩ := apart repeated
  refine ⟨((texts _ text).unknown _).1 unknown, value.unknown.1 ⟨_, unknown⟩,
    fun p => refused _ p text', ⟨_, rfl, ?_⟩⟩
  exact Option.some.inj (labels _ rfl .host).symm

end Clearance.Wire

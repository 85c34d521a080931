/-
# Clearance.Proofs.LabelOutcome -- the three things that become of named labels

Named labels are refused for a name, refused for a dimension, or make a profile
(`Profile.Outcome`).  Each case says where its reason stands:

* an unknown name is the first one, so that all names before it are known.  What stands
  behind it is not looked at, and dimensions may be missing as well;
* a missing dimension is the first in canonical order that is not named, and this is told
  only where all names are known;
* a profile has on each dimension the label of the last pair under its name.

The cases exclude each other and one always applies (`ofPairs_eq_iff`), so this is all
there is to say of how a profile is made of pairs.  Which pair is the first or the last
depends on the order of the pairs, but the last of one is the only one: where no name is
repeated a profile comes out the same in any order.
-/
import Clearance.Proofs.NamedLabels

namespace Clearance.Profile

set_option autoImplicit false

variable {pairs : List (String × Label)}

/-- All names of the pairs are names of dimensions. -/
def Known (pairs : List (String × Label)) : Prop :=
  ∀ name ∈ pairs.map Prod.fst, ∃ d : Dimension, d.name = name

/-- What becomes of named labels. -/
inductive Outcome (pairs : List (String × Label)) : Except ProfileError Profile → Prop
  | unknown {before after : List (String × Label)} {name : String} {l : Label}
      (place : pairs = before ++ (name, l) :: after) (known : Known before)
      (stray : ∀ d : Dimension, d.name ≠ name) :
      Outcome pairs (.error (.unknown name))
  | missing {before after : List Dimension} {d : Dimension} (known : Known pairs)
      (place : Dimension.all = before ++ d :: after)
      (named : ∀ e ∈ before, e.name ∈ pairs.map Prod.fst)
      (absent : d.name ∉ pairs.map Prod.fst) :
      Outcome pairs (.error (.missing d))
  | complete {p : Profile} (known : Known pairs)
      (last : ∀ d : Dimension, ∃ before after, pairs = before ++ (d.name, p.get d) :: after ∧
        d.name ∉ after.map Prod.fst) :
      Outcome pairs (.ok p)

/-! ## Where the reasons stand -/

/-- The first unknown name has known names before it. -/
theorem unknownName?_eq_some_iff {name : String} :
    unknownName? pairs = some name ↔
      ∃ before l after, pairs = before ++ (name, l) :: after ∧ Known before ∧
        ∀ d : Dimension, d.name ≠ name := by
  rw [unknownName?, List.find?_eq_some_iff_append, Option.isNone_iff_eq_none,
    Dimension.ofName?_eq_none_iff]
  constructor
  · rintro ⟨stray, names, others, place, known⟩
    obtain ⟨before, rest, rfl, rfl, atRest⟩ := List.map_eq_append_iff.1 place
    obtain ⟨⟨_, l⟩, after, rfl, rfl, -⟩ := List.map_eq_cons_iff.1 atRest
    refine ⟨before, l, after, rfl, fun earlier member => ?_, stray⟩
    simpa [Option.isSome_iff_exists, Dimension.ofName?_eq_some_iff] using known earlier member
  · rintro ⟨before, l, after, rfl, known, stray⟩
    refine ⟨stray, before.map Prod.fst, after.map Prod.fst, by simp, fun earlier member => ?_⟩
    obtain ⟨d, rfl⟩ := known earlier member
    simp [Dimension.ofName?_name]

/-- Behind the last pair under a name there is none. -/
theorem lastUnder?_eq_some_iff {name : String} {l : Label} :
    lastUnder? pairs name = some l ↔
      ∃ before after, pairs = before ++ (name, l) :: after ∧ name ∉ after.map Prod.fst := by
  have others_iff : ∀ xs : List (String × Label),
      (∀ pair ∈ xs, (name != pair.1) = true) ↔ name ∉ xs.reverse.map Prod.fst := fun xs => by
    rw [← List.lookup_eq_none_iff, Ordered.lookup_eq_none_iff_not_mem, List.map_reverse,
      List.mem_reverse]
  rw [lastUnder?, List.lookup_eq_some_iff]
  simp only [others_iff]
  constructor
  · rintro ⟨behind, ahead, place, others⟩
    refine ⟨ahead.reverse, behind.reverse, ?_, others⟩
    rw [← List.reverse_inj, place]
    simp
  · rintro ⟨before, after, rfl, others⟩
    exact ⟨after.reverse, before.reverse, by simp, by simpa using others⟩

/-! ## The cases -/

/-- The cases do not overlap, and one of them always applies. -/
theorem ofPairs_eq_iff {r : Except ProfileError Profile} :
    ofPairs pairs = r ↔ Outcome pairs r := by
  constructor
  · intro made
    cases r with
    | ok p =>
        obtain ⟨known, last⟩ := ofPairs_eq_ok_iff.1 made
        exact .complete known fun d => lastUnder?_eq_some_iff.1 (last d)
    | error cause =>
        cases cause with
        | unknown name =>
            have found := ofPairs_eq_unknown_iff.1 made
            obtain ⟨before, l, after, place, known, stray⟩ := unknownName?_eq_some_iff.1 found
            exact .unknown place known stray
        | missing d =>
            obtain ⟨known, absent, named⟩ := ofPairs_eq_missing_iff.1 made
            obtain ⟨before, after, place⟩ := List.append_of_mem (Dimension.mem_all d)
            refine .missing known place (fun e earlier => named e ?_) absent
            exact (Dimension.mem_before_iff place).1 earlier
  · intro outcome
    cases outcome with
    | unknown place known stray =>
        have found := unknownName?_eq_some_iff.2 ⟨_, _, _, place, known, stray⟩
        exact ofPairs_eq_unknown_iff.2 found
    | missing known place named absent =>
        refine ofPairs_eq_missing_iff.2 ⟨known, absent, fun e smaller => named e ?_⟩
        exact (Dimension.mem_before_iff place).2 smaller
    | complete known last =>
        exact ofPairs_eq_ok_iff.2 ⟨known, fun d => lastUnder?_eq_some_iff.2 (last d)⟩

/-- **What becomes of named labels.**  They are refused for the first name that is no
dimension, whatever is missing; or else for the first dimension in canonical order that
is not named; or else they make the profile of the last label under each name.  So pairs
without a repeated name that make a profile make the same one in any order. -/
theorem named_labels_have_one_outcome (pairs : List (String × Label)) :
    (∀ r, ofPairs pairs = r ↔ Outcome pairs r) ∧
    ∀ pairs' : List (String × Label), pairs'.Perm pairs → (pairs.map Prod.fst).Nodup →
      ∀ p, ofPairs pairs = .ok p → ofPairs pairs' = .ok p :=
  ⟨fun _ => ofPairs_eq_iff,
    fun _ perm distinct _ made => (ofPairs_eq_ok_iff_of_perm perm.symm distinct).1 made⟩

/-- Two names that are no dimensions, the lesser one behind the other, and a dimension
twice where four are missing. -/
def misspelt : List (String × Label) :=
  [("host", ⟨"laptop"⟩), ("Runtime", ⟨"shell"⟩), ("Command", ⟨"list"⟩), ("host", ⟨"server"⟩)]

/-- All dimensions, each once and out of order. -/
def scattered : List (String × Label) :=
  [("financial", ⟨"none"⟩), ("runtime", ⟨"shell"⟩), ("host", ⟨"laptop"⟩), ("context", ⟨"desk"⟩),
    ("command", ⟨"list"⟩)]

/-- The first misspelt name is told, and the scattered labels come to their dimensions
from behind as well. -/
theorem misspelt_and_scattered_outcomes :
    Outcome misspelt (.error (.unknown "Runtime")) ∧
    ofPairs scattered.reverse =
      .ok ⟨⟨"laptop"⟩, ⟨"desk"⟩, ⟨"shell"⟩, ⟨"list"⟩, ⟨"none"⟩⟩ := by
  have distinct : (scattered.map Prod.fst).Nodup := by decide
  obtain ⟨outcome, -⟩ := named_labels_have_one_outcome misspelt
  obtain ⟨-, anyOrder⟩ := named_labels_have_one_outcome scattered
  exact ⟨(outcome _).1 rfl, anyOrder _ (List.reverse_perm scattered) distinct _ rfl⟩

end Clearance.Profile

/-
# Clearance.Proofs.NamedLabels -- the profile that named labels describe

Named labels are put into their slots one by one (`foldlM_place`).  The first name that is
no dimension ends this, whatever stands before or after it; otherwise each slot has the last
label under the name of its dimension.  So the profile of named labels is told by two
searches (`ofPairs_eq`): for the first unknown name, from the front, and for the label of
each dimension, from the end.

In another order the pairs describe the same profile, if no name is repeated
(`ofPairs_eq_ok_iff_of_perm`), and lack the same dimension; only of several unknown names
another one may be told.
-/
import Mathlib.Data.List.Nodup
import Clearance.Profile

namespace Clearance

set_option autoImplicit false

namespace Profile

variable {pairs pairs' : List (String × Label)} {p : Profile}

/-- The first name that is no dimension. -/
def unknownName? (pairs : List (String × Label)) : Option String :=
  (pairs.map Prod.fst).find? fun name => (Dimension.ofName? name).isNone

/-- The last label under a name. -/
def lastUnder? (pairs : List (String × Label)) (name : String) : Option Label :=
  pairs.reverse.lookup name

theorem unknownName?_cons_name (d : Dimension) (l : Label) (pairs : List (String × Label)) :
    unknownName? ((d.name, l) :: pairs) = unknownName? pairs := by
  simp [unknownName?, Dimension.ofName?_name]

theorem unknownName?_cons_unknown {name : String} (unknown : Dimension.ofName? name = none)
    (l : Label) (pairs : List (String × Label)) :
    unknownName? ((name, l) :: pairs) = some name := by
  simp [unknownName?, unknown]

theorem lastUnder?_cons (name other : String) (l : Label) (pairs : List (String × Label)) :
    lastUnder? ((name, l) :: pairs) other =
      (lastUnder? pairs other).or (if other = name then some l else none) := by
  rw [lastUnder?, List.reverse_cons, List.lookup_append]
  by_cases same : other = name
  · simp [lastUnder?, same]
  · simp [lastUnder?, same, List.lookup_cons, beq_false_of_ne]

theorem place_name (slots : Slots) (d : Dimension) (l : Label) :
    place slots (d.name, l) = .ok (slots.set d l) := by
  rw [place, Dimension.parse, Dimension.ofName?_name]
  rfl

theorem place_unknown {name : String} (unknown : Dimension.ofName? name = none) (slots : Slots)
    (l : Label) : place slots (name, l) = .error (.unknown name) := by
  rw [place, Dimension.parse, unknown]
  rfl

/-- Pairs are placed until a name is unknown, and the last one under a name stays. -/
theorem foldlM_place (pairs : List (String × Label)) (slots : Slots) :
    pairs.foldlM place slots =
      match unknownName? pairs with
      | some name => .error (.unknown name)
      | none => .ok fun d => (lastUnder? pairs d.name).or (slots d) := by
  induction pairs generalizing slots with
  | nil => rfl
  | cons pair pairs ih =>
      obtain ⟨name, l⟩ := pair
      cases known : Dimension.ofName? name with
      | none =>
          rw [List.foldlM_cons, place_unknown known, unknownName?_cons_unknown known]
          rfl
      | some d =>
          obtain rfl := Dimension.ofName?_eq_some_iff.1 known
          rw [List.foldlM_cons, place_name]
          refine (ih (slots.set d l)).trans ?_
          have filled : ∀ e : Dimension, (lastUnder? pairs e.name).or (slots.set d l e) =
              (lastUnder? ((d.name, l) :: pairs) e.name).or (slots e) := fun e => by
            rw [lastUnder?_cons, Option.or_assoc]
            by_cases same : e = d
            · subst same
              simp
            · simp [Slots.set_of_ne slots l same, Dimension.name_inj, same]
          simp only [unknownName?_cons_name, filled]

/-- **The profile of named labels**: no name is unknown, and each dimension has its last
label. -/
theorem ofPairs_eq (pairs : List (String × Label)) :
    ofPairs pairs =
      match unknownName? pairs with
      | some name => .error (.unknown name)
      | none => ofSlots fun d => lastUnder? pairs d.name := by
  rw [ofPairs, foldlM_place]
  cases unknownName? pairs with
  | some name => rfl
  | none => simp only [Slots.empty, Option.or_none, Except.bind]

/-! ## What the searches find -/

theorem unknownName?_eq_none_iff :
    unknownName? pairs = none ↔ ∀ name ∈ pairs.map Prod.fst, ∃ d : Dimension, d.name = name := by
  simp only [unknownName?, List.find?_eq_none, Option.isNone_iff_eq_none,
    Dimension.ofName?_eq_none_iff, not_forall, not_not]

theorem lastUnder?_eq_none_iff {name : String} :
    lastUnder? pairs name = none ↔ name ∉ pairs.map Prod.fst := by
  rw [lastUnder?, Ordered.lookup_eq_none_iff_not_mem, List.map_reverse, List.mem_reverse]

/-- Where no name is repeated the last label under a name is the only one. -/
theorem lastUnder?_eq_some_iff_of_nodup (distinct : (pairs.map Prod.fst).Nodup) {name : String}
    {l : Label} : lastUnder? pairs name = some l ↔ (name, l) ∈ pairs := by
  have reversed : (pairs.reverse.map Prod.fst).Nodup := by
    rwa [List.map_reverse, List.nodup_reverse]
  rw [lastUnder?, Ordered.lookup_eq_some_iff_of_nodup reversed, List.mem_reverse]

/-! ## Outcomes -/

theorem ofPairs_eq_ok_iff :
    ofPairs pairs = .ok p ↔
      (∀ name ∈ pairs.map Prod.fst, ∃ d : Dimension, d.name = name) ∧
        ∀ d : Dimension, lastUnder? pairs d.name = some (p.get d) := by
  rw [ofPairs_eq, ← unknownName?_eq_none_iff]
  cases unknownName? pairs <;> simp [ofSlots_eq_ok_iff]

/-- The first unknown name is told, whatever is missing. -/
theorem ofPairs_eq_unknown_iff {name : String} :
    ofPairs pairs = .error (.unknown name) ↔ unknownName? pairs = some name := by
  rw [ofPairs_eq]
  cases unknownName? pairs with
  | some other => simp
  | none =>
      refine ⟨fun failed => ?_, nofun⟩
      obtain ⟨d, same, -⟩ := ofSlots_eq_error_iff.1 failed
      cases same

/-- The name that is told is one of the names, and no dimension's. -/
theorem unknown_of_ofPairs {name : String} (failed : ofPairs pairs = .error (.unknown name)) :
    name ∈ pairs.map Prod.fst ∧ ∀ d : Dimension, d.name ≠ name := by
  have found := ofPairs_eq_unknown_iff.1 failed
  refine ⟨List.mem_of_find?_eq_some found, Dimension.ofName?_eq_none_iff.1 ?_⟩
  simpa using List.find?_some found

/-- Only where all names are known a dimension is missing, the first one that is no name. -/
theorem ofPairs_eq_missing_iff {d : Dimension} :
    ofPairs pairs = .error (.missing d) ↔
      (∀ name ∈ pairs.map Prod.fst, ∃ d : Dimension, d.name = name) ∧
        d.name ∉ pairs.map Prod.fst ∧
        ∀ e : Dimension, e.index < d.index → e.name ∈ pairs.map Prod.fst := by
  rw [ofPairs_eq, ← unknownName?_eq_none_iff]
  cases unknownName? pairs with
  | some name => simp
  | none =>
      simp only [ofSlots_eq_error_iff, ProfileError.missing.injEq, exists_eq_left,
        lastUnder?_eq_none_iff, ne_eq, not_not, true_and]

/-- Named labels make a profile where all names are known and none is missing. -/
theorem exists_ofPairs_eq_ok_iff :
    (∃ p, ofPairs pairs = .ok p) ↔
      (∀ name ∈ pairs.map Prod.fst, ∃ d : Dimension, d.name = name) ∧
        ∀ d : Dimension, d.name ∈ pairs.map Prod.fst := by
  have under_iff : ∀ d : Dimension,
      d.name ∈ pairs.map Prod.fst ↔ lastUnder? pairs d.name ≠ none := fun d => by
    rw [ne_eq, lastUnder?_eq_none_iff, not_not]
  simp only [ofPairs_eq_ok_iff, exists_and_left, under_iff]
  refine and_congr_right fun known => ⟨?_, fun none_missing => ?_⟩
  · rintro ⟨p, labels⟩ d
    simp [labels d]
  · rcases first_empty_or_filled fun d => lastUnder? pairs d.name with ⟨d, first⟩ | ⟨p, filled⟩
    · exact absurd (by simpa using List.find?_some first) (none_missing d)
    · exact ⟨p, congrFun filled⟩

/-! ## Another order -/

section

variable (perm : pairs.Perm pairs') (distinct : (pairs.map Prod.fst).Nodup)

include perm

theorem ofPairs_eq_missing_iff_of_perm {d : Dimension} :
    ofPairs pairs = .error (.missing d) ↔ ofPairs pairs' = .error (.missing d) := by
  simp only [ofPairs_eq_missing_iff, (perm.map Prod.fst).mem_iff]

theorem exists_ofPairs_eq_unknown_iff_of_perm :
    (∃ name, ofPairs pairs = .error (.unknown name)) ↔
      ∃ name, ofPairs pairs' = .error (.unknown name) := by
  simp only [ofPairs_eq_unknown_iff, ← Option.isSome_iff_exists, Option.isSome_iff_ne_none, ne_eq,
    unknownName?_eq_none_iff, (perm.map Prod.fst).mem_iff]

include distinct

/-- Where no name is repeated the pairs describe the same profile in any order. -/
theorem ofPairs_eq_ok_iff_of_perm : ofPairs pairs = .ok p ↔ ofPairs pairs' = .ok p := by
  have distinct' : (pairs'.map Prod.fst).Nodup := (perm.map Prod.fst).nodup_iff.1 distinct
  simp only [ofPairs_eq_ok_iff, lastUnder?_eq_some_iff_of_nodup distinct,
    lastUnder?_eq_some_iff_of_nodup distinct', (perm.map Prod.fst).mem_iff, perm.mem_iff]

end

end Profile

end Clearance

/-
# Clearance.Proofs.FailClosed -- what a table does not know is never admitted

A table answers for every two labels, so a label it has never heard of is not
refused.  It is met to bottom instead, and bottom is final: it absorbs from
either side, hence a fold that has reached it stays there.  No semilattice law
is needed for this, only that no rule mentions bottom.

* `knows_of_meet_ne_bottom`: two labels that meet above bottom are known, so that one
  outside the domain meets everything to bottom, from either side;
* `meet_mem_domain`: whatever is met, the result is of the domain;
* `knows_of_meetAll_ne_bottom`: so are all labels of a list of two or more whose
  fold is above bottom.  A single label is its own fold, known or not;
* `admission_fails_closed`: a decision to allow, in either mode, has ten known labels.
-/
import Mathlib.Tactic.ByContra
import Clearance.MeetTable.Builder
import Clearance.Evaluation

namespace Clearance

set_option autoImplicit false

namespace MeetTable

variable (t : MeetTable)

/-- The label is of the domain and above bottom. -/
def Knows (l : Label) : Prop :=
  l ∈ t.domain ∧ l ≠ t.bottom

instance (l : Label) : Decidable (t.Knows l) :=
  inferInstanceAs (Decidable (_ ∧ _))

/-! ## One meet -/

theorem bottom_mem_domain : t.bottom ∈ t.domain :=
  t.mem_domain_iff.2 (.inl rfl)

/-- The labels a rule mentions are known. -/
theorem knows_of_mem_labels {r : MeetRule} (member : r ∈ t.rules) {l : Label}
    (mentioned : l ∈ r.labels) : t.Knows l := by
  obtain ⟨left, right, result⟩ := t.avoids_bottom r member
  refine ⟨t.mem_domain_iff.2 (.inr ⟨r, member, mentioned⟩), ?_⟩
  simp only [MeetRule.labels, List.mem_cons, List.not_mem_nil, or_false] at mentioned
  rcases mentioned with rfl | rfl | rfl
  · exact left
  · exact right
  · exact result

/-- Two labels that meet above bottom are known. -/
theorem knows_of_meet_ne_bottom {a b : Label} (above : t.meet a b ≠ t.bottom) :
    t.Knows a ∧ t.Knows b := by
  have member := t.rule_of_meet_ne_bottom above
  exact ⟨t.knows_of_mem_labels member (MeetRule.left_mem_labels _),
    t.knows_of_mem_labels member (MeetRule.right_mem_labels _)⟩

/-- Meets do not leave the domain. -/
theorem meet_mem_domain (a b : Label) : t.meet a b ∈ t.domain := by
  by_cases atBottom : t.meet a b = t.bottom
  · rw [atBottom]
    exact t.bottom_mem_domain
  · have member := t.rule_of_meet_ne_bottom atBottom
    exact (t.knows_of_mem_labels member (MeetRule.result_mem_labels _)).1

theorem meet_eq_bottom_of_left_unknown {a : Label} (unknown : a ∉ t.domain) (b : Label) :
    t.meet a b = t.bottom := by
  by_contra above
  exact unknown (t.knows_of_meet_ne_bottom above).1.1

theorem meet_eq_bottom_of_right_unknown (a : Label) {b : Label} (unknown : b ∉ t.domain) :
    t.meet a b = t.bottom := by
  by_contra above
  exact unknown (t.knows_of_meet_ne_bottom above).2.1

/-! ## Folds -/

/-- A fold that has reached bottom stays there. -/
@[simp] theorem foldl_meet_bottom (ls : List Label) : ls.foldl t.meet t.bottom = t.bottom := by
  induction ls with
  | nil => rfl
  | cons l ls ih => simpa using ih

/-- A fold that ends above bottom has not been at bottom before. -/
theorem ne_bottom_of_foldl {start : Label} {ls : List Label}
    (above : ls.foldl t.meet start ≠ t.bottom) : start ≠ t.bottom := by
  rintro rfl
  exact above (t.foldl_meet_bottom ls)

theorem foldl_meet_mem_domain {start : Label} (member : start ∈ t.domain) (ls : List Label) :
    ls.foldl t.meet start ∈ t.domain := by
  induction ls generalizing start with
  | nil => exact member
  | cons l ls ih => exact ih (t.meet_mem_domain start l)

theorem knows_of_foldl_ne_bottom {start : Label} {ls : List Label}
    (above : ls.foldl t.meet start ≠ t.bottom) : ∀ l ∈ ls, t.Knows l := by
  induction ls generalizing start with
  | nil => simp
  | cons l ls ih =>
      have first : t.meet start l ≠ t.bottom := t.ne_bottom_of_foldl above
      intro m member
      rcases List.mem_cons.1 member with rfl | member
      · exact (t.knows_of_meet_ne_bottom first).2
      · exact ih above m member

/-- What stands behind a list is folded onto the fold of the list. -/
theorem meetAll_append_eq_foldl {xs : List Label} (ne : xs ≠ []) (ys : List Label) :
    t.meetAll (xs ++ ys) = ys.foldl t.meet (t.meetAll xs) := by
  obtain ⟨x, xs, rfl⟩ := List.exists_cons_of_ne_nil ne
  exact List.foldl_append

/-- A list is permitted only if the part it starts with is. -/
theorem permits_of_append {xs ys : List Label} (ne : xs ≠ [])
    (permitted : t.permits (xs ++ ys) = true) : t.permits xs = true := by
  rw [permits_iff] at permitted ⊢
  rw [t.meetAll_append_eq_foldl ne] at permitted
  exact t.ne_bottom_of_foldl permitted

/-- All labels of a list of two or more whose fold is above bottom are known. -/
theorem knows_of_meetAll_ne_bottom {ls : List Label} (two : 2 ≤ ls.length)
    (above : t.meetAll ls ≠ t.bottom) : ∀ l ∈ ls, t.Knows l := by
  match ls, two with
  | a :: b :: rest, _ =>
      have first : t.meet a b ≠ t.bottom := t.ne_bottom_of_foldl above
      intro l member
      rcases List.mem_cons.1 member with rfl | member
      · exact (t.knows_of_meet_ne_bottom first).1
      · exact t.knows_of_foldl_ne_bottom above l member

/-- Two labels or more fold to one of the domain, whatever they are. -/
theorem meetAll_mem_domain_of_two {ls : List Label} (two : 2 ≤ ls.length) :
    t.meetAll ls ∈ t.domain := by
  match ls, two with
  | a :: b :: rest, _ => exact t.foldl_meet_mem_domain (t.meet_mem_domain a b) rest

/-! ## Decisions -/

theorem knows_of_permits_labels {p : Profile} (permitted : t.permits p.labels = true) :
    ∀ l ∈ p.labels, t.Knows l :=
  t.knows_of_meetAll_ne_bottom (by rw [p.length_labels]; omega) ((t.permits_iff _).1 permitted)

/-- The two sides of a pairwise check are known where they meet. -/
theorem knows_of_meetOn_ne_bottom {c : Context} {request : Profile}
    (above : ∀ d, t.meetOn c request d ≠ t.bottom) :
    (∀ l ∈ c.labels, t.Knows l) ∧ ∀ l ∈ request.labels, t.Knows l := by
  constructor
  · intro l member
    obtain ⟨d, -, rfl⟩ := List.mem_map.1 member
    exact (t.knows_of_meet_ne_bottom (above d)).1
  · intro l member
    obtain ⟨d, -, rfl⟩ := List.mem_map.1 member
    exact (t.knows_of_meet_ne_bottom (above d)).2

/-- **Admission fails closed.**  Whatever laws a table breaks, a list of two or
more labels folds above bottom only if the table knows them all, and a decision
to allow, in either mode, has known labels on every dimension of both sides. -/
theorem admission_fails_closed :
    (∀ ls : List Label, 2 ≤ ls.length → t.meetAll ls ≠ t.bottom →
      ∀ l ∈ ls, l ∈ t.domain ∧ l ≠ t.bottom) ∧
    ∀ (c : Context) (request : Profile) (mode : Mode), t.evaluate c request mode = .allow →
      ∀ l ∈ c.labels ++ request.labels, l ∈ t.domain ∧ l ≠ t.bottom := by
  refine ⟨fun ls two above => t.knows_of_meetAll_ne_bottom two above, ?_⟩
  intro c request mode allowed l member
  have sides : (∀ l ∈ c.labels, t.Knows l) ∧ ∀ l ∈ request.labels, t.Knows l := by
    cases mode with
    | independent =>
        obtain ⟨context, requested⟩ := (t.evaluate_independent_eq_allow_iff c request).1 allowed
        exact ⟨t.knows_of_permits_labels context, t.knows_of_permits_labels requested⟩
    | pairwise =>
        obtain ⟨above, -⟩ := (t.evaluate_pairwise_eq_allow_iff c request).1 allowed
        exact t.knows_of_meetOn_ne_bottom above
  rcases List.mem_append.1 member with member | member
  · exact sides.1 l member
  · exact sides.2 l member

/-- A table that is neither commutative nor idempotent: `A` meets `B` only in this
order, and `B` does not meet itself. -/
def oneSided : MeetTable :=
  (Builder.build ⟨⟨"BOTTOM"⟩,
    [⟨⟨"A"⟩, ⟨"A"⟩, ⟨"A"⟩⟩, ⟨⟨"A"⟩, ⟨"B"⟩, ⟨"A"⟩⟩]⟩).toOption.get (by decide)

/-- Both parts have something to say of a table without laws. -/
theorem oneSided_fails_closed :
    (2 ≤ [(⟨"A"⟩ : Label), ⟨"B"⟩].length ∧
      oneSided.meetAll [⟨"A"⟩, ⟨"B"⟩] ≠ oneSided.bottom ∧
      ∀ l ∈ [(⟨"A"⟩ : Label), ⟨"B"⟩], l ∈ oneSided.domain ∧ l ≠ oneSided.bottom) ∧
    oneSided.evaluate ⟨.uniform ⟨"A"⟩⟩ (.uniform ⟨"B"⟩) .pairwise = .allow ∧
      ∀ l ∈ Context.labels ⟨.uniform ⟨"A"⟩⟩ ++ (Profile.uniform ⟨"B"⟩).labels,
        l ∈ oneSided.domain ∧ l ≠ oneSided.bottom :=
  ⟨⟨by decide, by decide, oneSided.admission_fails_closed.1 _ (by decide) (by decide)⟩,
    by decide, oneSided.admission_fails_closed.2 _ _ .pairwise (by decide)⟩

/-- A single label is its own fold, and need not be known. -/
example : oneSided.meetAll [⟨"C"⟩] ≠ oneSided.bottom ∧ ¬ oneSided.Knows ⟨"C"⟩ := by
  decide

end MeetTable

end Clearance

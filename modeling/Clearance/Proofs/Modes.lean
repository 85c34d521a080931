/-
# Clearance.Proofs.Modes -- how the two modes of a decision compare

The modes read one table along different paths.  Independent checks fold the
context and the request apart; pairwise checks meet them dimension by dimension,
stop at the first meet that is bottom, and fold the five meets.

The early stop gives a denial its reason and never decides it: a fold over a
meet that is bottom is bottom anyway (`evaluate_pairwise_eq_allow_iff_permits`).
On a table whose report has nothing against commutativity and associativity the
five meets fold to the same label as all ten labels in a row, so pairwise checks
ask for more than independent ones.  Idempotence plays no part.
-/
import Clearance.Proofs.LawfulFold

namespace Clearance.MeetTable

set_option autoImplicit false

variable (t : MeetTable)

/-- Pairwise checks allow exactly when the five meets fold above bottom. -/
theorem evaluate_pairwise_eq_allow_iff_permits (c : Context) (request : Profile) :
    t.evaluate c request .pairwise = .allow ↔
      t.permits (Dimension.all.map (t.meetOn c request)) = true := by
  rw [evaluate_pairwise_eq_allow_iff]
  refine ⟨fun allowed => allowed.2, fun permitted => ⟨fun d => ?_, permitted⟩⟩
  have above := (t.permits_iff _).1 permitted
  have known := t.knows_of_meetAll_ne_bottom (by simp [Dimension.all]) above
  exact (known _ (List.mem_map_of_mem (Dimension.mem_all d))).2

/-- The five meets of a pairwise check fold to the meet of the two sides. -/
theorem meetAll_meetOn [Std.Associative t.meet] [Std.Commutative t.meet] (c : Context)
    (request : Profile) :
    t.meetAll (Dimension.all.map (t.meetOn c request)) =
      t.meet (t.meetAll c.labels) (t.meetAll request.labels) :=
  t.meetAll_map_meet c.get request.get Dimension.all

/-- **Pairwise checks are one fold of ten labels, and never more permissive.**
Where the report has nothing against commutativity and associativity, a pairwise
check allows exactly when the labels of the context followed by those of the
request meet above bottom; then the independent check allows as well. -/
theorem pairwise_allow_iff_permits_labels (commutative : t.Keeps .commutativity)
    (associative : t.Keeps .associativity) (c : Context) (request : Profile) :
    (t.evaluate c request .pairwise = .allow ↔
      t.permits (c.labels ++ request.labels) = true) ∧
    (t.evaluate c request .pairwise = .allow →
      t.evaluate c request .independent = .allow) := by
  have := t.commutative_of_keeps commutative
  have := t.associative_of_keeps associative
  have folded : t.evaluate c request .pairwise = .allow ↔
      t.meet (t.meetAll c.labels) (t.meetAll request.labels) ≠ t.bottom := by
    rw [evaluate_pairwise_eq_allow_iff_permits, permits_iff, meetAll_meetOn]
  constructor
  · have context : c.labels ≠ [] := c.profile.labels_ne_nil
    rw [folded, permits_iff, t.meetAll_append context request.labels_ne_nil]
  · intro allowed
    obtain ⟨context, requested⟩ := t.knows_of_meet_ne_bottom (folded.1 allowed)
    rw [evaluate_independent_eq_allow_iff, permits_iff, permits_iff]
    exact ⟨context.2, requested.2⟩

/-- A table where what is used once stays used: all meets of `NEW` and `USED` are
`USED`, so that `NEW` does not even meet itself to `NEW`. -/
def wearing : MeetTable :=
  (Builder.build ⟨⟨"BOTTOM"⟩, [⟨⟨"NEW"⟩, ⟨"NEW"⟩, ⟨"USED"⟩⟩, ⟨⟨"NEW"⟩, ⟨"USED"⟩, ⟨"USED"⟩⟩,
    ⟨⟨"USED"⟩, ⟨"NEW"⟩, ⟨"USED"⟩⟩, ⟨⟨"USED"⟩, ⟨"USED"⟩, ⟨"USED"⟩⟩]⟩).toOption.get (by decide)

/-- Pairwise checks are one fold on a table that is not idempotent. -/
theorem wearing_allow_iff_permits_labels :
    (wearing.Keeps .commutativity ∧ wearing.Keeps .associativity ∧ ¬ wearing.Keeps .idempotence) ∧
    wearing.evaluate ⟨.uniform ⟨"NEW"⟩⟩ (.uniform ⟨"NEW"⟩) .pairwise = .allow ∧
    (wearing.evaluate ⟨.uniform ⟨"NEW"⟩⟩ (.uniform ⟨"NEW"⟩) .pairwise = .allow ↔
      wearing.permits (Context.labels ⟨.uniform ⟨"NEW"⟩⟩ ++ (Profile.uniform ⟨"NEW"⟩).labels) =
        true) ∧
    (wearing.evaluate ⟨.uniform ⟨"NEW"⟩⟩ (.uniform ⟨"NEW"⟩) .pairwise = .allow →
      wearing.evaluate ⟨.uniform ⟨"NEW"⟩⟩ (.uniform ⟨"NEW"⟩) .independent = .allow) :=
  ⟨⟨by decide, by decide, by decide⟩, by decide,
    wearing.pairwise_allow_iff_permits_labels (by decide) (by decide) _ _⟩

end Clearance.MeetTable

/-
# Clearance.Proofs.Privilege -- raising a label keeps what is allowed

A label is below another where the two meet to it (`Below`).  On a table whose
report has nothing against commutativity and associativity, what is below stays
below through everything a decision computes: through a meet (`meet_below`) and
through the fold of a family (`meetAll_below`).  A label above one that is not
bottom is not bottom either, since bottom absorbs, so a decision to allow
survives raised labels on both sides and in both modes.

Without idempotence `Below` need not be reflexive.  A label that does not meet
itself to itself cannot be kept where it is, only be raised to one that it is
below.
-/
import Clearance.Proofs.Modes

namespace Clearance.MeetTable

set_option autoImplicit false

variable (t : MeetTable)

/-- The two labels meet to the first. -/
def Below (a b : Label) : Prop :=
  t.meet a b = a

instance (a b : Label) : Decidable (t.Below a b) :=
  inferInstanceAs (Decidable (_ = _))

variable {t}

theorem ne_bottom_of_below {a b : Label} (below : t.Below a b) (above : a ≠ t.bottom) :
    b ≠ t.bottom := by
  rintro rfl
  exact above (below.symm.trans (t.meet_bottom_right a))

section Lawful

variable [Std.Associative t.meet] [Std.Commutative t.meet]

theorem meet_below {a a' b b' : Label} (left : t.Below a a') (right : t.Below b b') :
    t.Below (t.meet a b) (t.meet a' b') :=
  calc t.meet (t.meet a b) (t.meet a' b')
    _ = t.meet (t.meet a a') (t.meet b b') := by ac_rfl
    _ = t.meet a b := by rw [left, right]

/-- Of two families, one below the other member by member, the folds are too. -/
theorem meetAll_below {ι : Type} {f g : ι → Label} (below : ∀ i, t.Below (f i) (g i))
    (is : List ι) : t.Below (t.meetAll (is.map f)) (t.meetAll (is.map g)) :=
  calc t.meet (t.meetAll (is.map f)) (t.meetAll (is.map g))
    _ = t.meetAll (is.map fun i => t.meet (f i) (g i)) := (t.meetAll_map_meet f g is).symm
    _ = t.meetAll (is.map f) := by rw [funext below]

theorem permits_of_below {ι : Type} {f g : ι → Label} (below : ∀ i, t.Below (f i) (g i))
    {is : List ι} (permitted : t.permits (is.map f) = true) : t.permits (is.map g) = true := by
  rw [permits_iff] at permitted ⊢
  exact ne_bottom_of_below (meetAll_below below is) permitted

end Lawful

/-- **Raising labels never turns an admission into a denial.**  Where the report has
nothing against commutativity and associativity, a context and a request that are
allowed stay so when each label, on either side, is replaced by one it is below. -/
theorem raising_keeps_allow (commutative : t.Keeps .commutativity)
    (associative : t.Keeps .associativity) {c c' : Context} {request request' : Profile}
    (contextBelow : ∀ d, t.Below (c.get d) (c'.get d))
    (requestBelow : ∀ d, t.Below (request.get d) (request'.get d)) (mode : Mode)
    (allowed : t.evaluate c request mode = .allow) :
    t.evaluate c' request' mode = .allow := by
  have := t.commutative_of_keeps commutative
  have := t.associative_of_keeps associative
  cases mode with
  | independent =>
      rw [evaluate_independent_eq_allow_iff] at allowed ⊢
      exact allowed.imp (permits_of_below contextBelow) (permits_of_below requestBelow)
  | pairwise =>
      rw [evaluate_pairwise_eq_allow_iff_permits] at allowed ⊢
      exact permits_of_below (fun d => meet_below (contextBelow d) (requestBelow d)) allowed

/-- What is used may stay so or be raised to what is new, though `NEW` is not below
itself: here on one dimension of the context and on all of the request. -/
theorem wearing_keeps_allow :
    (wearing.Keeps .commutativity ∧ wearing.Keeps .associativity ∧
      ¬ wearing.Below ⟨"NEW"⟩ ⟨"NEW"⟩) ∧
    (wearing.evaluate ⟨.uniform ⟨"USED"⟩⟩ (.uniform ⟨"USED"⟩) .independent = .allow ∧
      wearing.evaluate ⟨(Profile.uniform ⟨"USED"⟩).set .host ⟨"NEW"⟩⟩ (.uniform ⟨"NEW"⟩)
        .independent = .allow) ∧
    wearing.evaluate ⟨.uniform ⟨"USED"⟩⟩ (.uniform ⟨"USED"⟩) .pairwise = .allow ∧
      wearing.evaluate ⟨(Profile.uniform ⟨"USED"⟩).set .host ⟨"NEW"⟩⟩ (.uniform ⟨"NEW"⟩)
        .pairwise = .allow := by
  have commutative : wearing.Keeps .commutativity := by decide
  have associative : wearing.Keeps .associativity := by decide
  have context : ∀ d, wearing.Below ((Profile.uniform ⟨"USED"⟩).get d)
      (((Profile.uniform ⟨"USED"⟩).set .host ⟨"NEW"⟩).get d) := by
    intro d
    cases d <;> decide
  have requested : ∀ d, wearing.Below ((Profile.uniform ⟨"USED"⟩).get d)
      ((Profile.uniform ⟨"NEW"⟩).get d) := by
    intro d
    cases d <;> decide
  refine ⟨⟨commutative, associative, by decide⟩, ⟨by decide, ?_⟩, by decide, ?_⟩
  · exact raising_keeps_allow commutative associative context requested .independent (by decide)
  · exact raising_keeps_allow commutative associative context requested .pairwise (by decide)

end Clearance.MeetTable

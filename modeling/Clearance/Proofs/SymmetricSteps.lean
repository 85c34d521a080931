/-
# Clearance.Proofs.SymmetricSteps -- definitions without a direction give tables without one

A directed definition of two different labels says nothing of the other order.  All other
steps have no direction: a symmetric definition and a chain define each of their rules
together with its mirror image (`MeetRule.flip`), a definition of equal operands is its
own mirror image, and a bottom is no rule.

The invariant is that the rules are `Mirrored`: with every rule its flip is defined.  One
step keeps it (`mirrored_rules`), hence any number of them (`mirrored_directedRules`), and
a table built of such rules is commutative on all labels (`meet_comm_of_mirrored`).  It
does not matter that the same pair is defined again from its other side, nor that a rule
is left out because its result is the bottom set at the end: its flip has the same result.

For the same reason a symmetric definition may be turned round: the rules stay the same,
and only their order changes.  So the table is the same one, or there is none; an error
may name the pair from its other side.
-/
import Mathlib.Data.List.Forall2
import Clearance.Proofs.ChainRules
import Clearance.Proofs.DefinitionOrder
import Clearance.Proofs.LawReport

namespace Clearance

set_option autoImplicit false

namespace MeetRule

/-- The rule with its operands exchanged. -/
def flip (r : MeetRule) : MeetRule :=
  ⟨r.right, r.left, r.result⟩

theorem flip_concerns_iff {r : MeetRule} {a b : Label} :
    r.flip.Concerns a b ↔ r.Concerns b a :=
  and_comm

end MeetRule

namespace BuildStep

/-- With every rule its mirror image is there. -/
def Mirrored (rules : List MeetRule) : Prop :=
  ∀ r ∈ rules, r.flip ∈ rules

/-- The step tells no order of operands: it is no directed definition of two labels. -/
def IsSymmetric : BuildStep → Prop
  | .define left right _ => left = right
  | _ => True

instance : DecidablePred IsSymmetric
  | .define left right _ => inferInstanceAs (Decidable (left = right))
  | .bottom _ | .defineSymmetric .. | .chain _ => isTrue trivial

/-- A symmetric definition made from its other side. -/
def turned : BuildStep → BuildStep
  | .defineSymmetric left right result => .defineSymmetric right left result
  | s => s

/-- The same steps, with some of the symmetric definitions turned. -/
def SomeTurned (steps others : List BuildStep) : Prop :=
  List.Forall₂ (fun s other => other = s ∨ other = s.turned) steps others

/-! ## What a step defines -/

theorem mem_rules_defineSymmetric_iff {left right result : Label} {r : MeetRule} :
    r ∈ (defineSymmetric left right result).rules ↔
      r = ⟨left, right, result⟩ ∨ r = ⟨right, left, result⟩ := by
  by_cases same : left = right <;> simp [rules, same]

/-- A chain says of two levels what it says of them in the other order. -/
theorem mirrored_chainRules (levels : List Label) : Mirrored (chainRules levels) := by
  rintro ⟨a, b, m⟩ rule
  obtain ⟨i, j, atI, atJ, atMax⟩ := mem_chainRules_iff.1 rule
  exact mem_chainRules_iff.2 ⟨j, i, atJ, atI, Nat.max_comm i j ▸ atMax⟩

/-- The rules of one step without a direction are mirrored. -/
theorem mirrored_rules {s : BuildStep} (symmetric : s.IsSymmetric) : Mirrored s.rules := by
  cases s with
  | bottom label => exact fun _ member => nomatch member
  | define left right result =>
      intro r member
      obtain rfl := List.mem_singleton.1 member
      obtain rfl : left = right := symmetric
      exact member
  | defineSymmetric left right result =>
      intro r member
      rw [mem_rules_defineSymmetric_iff] at member ⊢
      rcases member with rfl | rfl
      · exact .inr rfl
      · exact .inl rfl
  | chain levels => exact mirrored_chainRules levels

/-- So are the rules of any number of such steps, whichever of them defines a rule. -/
theorem mirrored_directedRules {steps : List BuildStep}
    (symmetric : ∀ s ∈ steps, s.IsSymmetric) : Mirrored (directedRules steps) := by
  intro r member
  obtain ⟨s, among, rule⟩ := List.mem_flatMap.1 member
  exact List.mem_flatMap.2 ⟨s, among, mirrored_rules (symmetric s among) r rule⟩

/-! ## Turning -/

theorem bottom?_turned (s : BuildStep) : s.turned.bottom? = s.bottom? := by
  cases s <;> rfl

theorem mem_rules_turned_iff {s : BuildStep} {r : MeetRule} :
    r ∈ s.turned.rules ↔ r ∈ s.rules := by
  cases s with
  | defineSymmetric left right result =>
      rw [turned, mem_rules_defineSymmetric_iff, mem_rules_defineSymmetric_iff, or_comm]
  | _ => rfl

variable {steps others : List BuildStep}

/-- Turned steps leave the same bottom. -/
theorem lastBottom_of_someTurned (turn : SomeTurned steps others) :
    lastBottom others = lastBottom steps := by
  have bottoms : others.filterMap bottom? = steps.filterMap bottom? := by
    induction turn with
    | nil => rfl
    | @cons s other _ _ first _ ih =>
        have same : other.bottom? = s.bottom? := by
          rcases first with rfl | rfl
          · rfl
          · exact s.bottom?_turned
        rw [List.filterMap_cons, List.filterMap_cons, same, ih]
  rw [lastBottom, lastBottom, bottoms]

/-- Turned steps define the same rules. -/
theorem mem_directedRules_iff_of_someTurned (turn : SomeTurned steps others) {r : MeetRule} :
    r ∈ directedRules others ↔ r ∈ directedRules steps := by
  induction turn with
  | nil => rfl
  | @cons s other _ _ first _ ih =>
      have same : r ∈ other.rules ↔ r ∈ s.rules := by
        rcases first with rfl | rfl
        · rfl
        · exact mem_rules_turned_iff
      simp only [directedRules, List.flatMap_cons, List.mem_append] at ih ⊢
      rw [same, ih]

end BuildStep

namespace Builder

/-- **A table of mirrored rules is commutative**, also where nothing is defined. -/
theorem meet_comm_of_mirrored {b : Builder} {t : MeetTable} (built : b.build = .ok t)
    (mirrored : BuildStep.Mirrored b.rules) (x y : Label) : t.meet x y = t.meet y x := by
  by_cases defined : ∃ r ∈ b.rules, r.Concerns x y
  · obtain ⟨r, member, rfl, rfl⟩ := defined
    have there : t.meet r.left r.right = r.result := meet_of_mem_of_build built member
    have back : t.meet r.right r.left = r.result := meet_of_mem_of_build built (mirrored r member)
    rw [there, back]
  · have there : ∀ r ∈ b.rules, ¬ r.Concerns x y := fun r member concerns =>
      defined ⟨r, member, concerns⟩
    have back : ∀ r ∈ b.rules, ¬ r.Concerns y x := fun r member concerns =>
      there r.flip (mirrored r member) (MeetRule.flip_concerns_iff.2 concerns)
    rw [meet_of_undefined built there, meet_of_undefined built back]

/-- **Symmetric definitions give commutative tables.**  What is built of steps without a
direction is commutative on all labels, and no break of commutativity is reported of it.
And whichever symmetric definitions of some steps are turned round, the same table is
built of them, or none of either. -/
theorem symmetric_definitions_commute (steps : List BuildStep) :
    ((∀ s ∈ steps, s.IsSymmetric) → ∀ t, (ofSteps steps).build = .ok t →
      (∀ x y, t.meet x y = t.meet y x) ∧
        ∀ a b ab ba, .notCommutative a b ab ba ∉ t.lawBreaks) ∧
    ∀ others, BuildStep.SomeTurned steps others →
      (∃ t, (ofSteps steps).build = .ok t ∧ (ofSteps others).build = .ok t) ∨
        ∃ e f, (ofSteps steps).build = .error e ∧ (ofSteps others).build = .error f := by
  constructor
  · intro symmetric t built
    have mirrored : BuildStep.Mirrored (ofSteps steps).rules :=
      (rules_ofSteps steps).symm ▸ BuildStep.mirrored_directedRules symmetric
    have commutes : ∀ x y, t.meet x y = t.meet y x := meet_comm_of_mirrored built mirrored
    refine ⟨commutes, fun a b ab ba reported => ?_⟩
    obtain ⟨-, rfl, rfl, breaks⟩ := t.notCommutative_mem_lawBreaks_iff.1 reported
    exact breaks (commutes a b)
  · intro others turn
    refine build_congr ?_ fun r => ?_
    · rw [bottom_ofSteps, bottom_ofSteps, BuildStep.lastBottom_of_someTurned turn]
    · rw [rules_ofSteps, rules_ofSteps, BuildStep.mem_directedRules_iff_of_someTurned turn]

/-- `A` and `B` from either side, `A` and `C` meeting to the bottom that is set only at the
end, a chain over both, and a definition of equal operands. -/
def twoFaced : List BuildStep :=
  [.defineSymmetric ⟨"A"⟩ ⟨"B"⟩ ⟨"B"⟩, .defineSymmetric ⟨"B"⟩ ⟨"A"⟩ ⟨"B"⟩,
    .defineSymmetric ⟨"A"⟩ ⟨"C"⟩ ⟨"NONE"⟩, .chain [⟨"A"⟩, ⟨"D"⟩], .define ⟨"B"⟩ ⟨"B"⟩ ⟨"B"⟩,
    .bottom ⟨"NONE"⟩]

/-- One pair with a result from each side. -/
def quarrel : List BuildStep :=
  [.defineSymmetric ⟨"A"⟩ ⟨"B"⟩ ⟨"A"⟩, .defineSymmetric ⟨"B"⟩ ⟨"A"⟩ ⟨"B"⟩]

/-- A table that is built from either side, and two results for a pair that are refused
from either side, with another order of the pair in the error. -/
theorem twoFaced_commutes :
    (∃ t, (ofSteps twoFaced).build = .ok t ∧ (∀ x y, t.meet x y = t.meet y x) ∧
      (ofSteps (twoFaced.map BuildStep.turned)).build = .ok t) ∧
    ∃ e f, e ≠ f ∧ (ofSteps quarrel).build = .error e ∧
      (ofSteps (quarrel.map BuildStep.turned)).build = .error f := by
  have symmetric : ∀ s ∈ twoFaced, s.IsSymmetric := by decide
  have turn : ∀ steps, BuildStep.SomeTurned steps (steps.map BuildStep.turned) := fun steps =>
    List.forall₂_map_right_iff.2 (List.forall₂_same.2 fun _ _ => .inr rfl)
  obtain ⟨commutes, alike⟩ := symmetric_definitions_commute twoFaced
  constructor
  · rcases alike _ (turn twoFaced) with ⟨t, built, turned⟩ | ⟨e, f, failed, -⟩
    · exact ⟨t, built, (commutes symmetric t built).1, turned⟩
    · cases failed
  · rcases (symmetric_definitions_commute quarrel).2 _ (turn quarrel) with
      ⟨t, built, -⟩ | ⟨e, f, left, right⟩
    · cases built
    · refine ⟨e, f, ?_, left, right⟩
      cases left
      cases right
      decide

end Builder

end Clearance

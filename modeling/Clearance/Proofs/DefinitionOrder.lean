/-
# Clearance.Proofs.DefinitionOrder -- definitions are a set, whatever order they come in

The checks of a build look back at what was defined before, and they stop at the
first rule that fails.  Which rule that is depends on the order, and so does the
error.  Whether there is one does not: soundness speaks of members alone
(`sound_congr`).  Nor does the table, because what is stored are the rules defined
with a result above bottom, once each and in one order
(`mem_rules_iff_of_build`).  So builders with one bottom and the same rules, in
any order and any number, build the same table or none (`build_congr`).

The bottom is the one set last, at whatever place among the definitions.
-/
import Clearance.Proofs.Meaning

namespace Clearance.Builder

set_option autoImplicit false

variable {b c : Builder}

theorem sound_congr {bottom : Label} {xs ys : List MeetRule} (same : ∀ r, r ∈ xs ↔ r ∈ ys) :
    Sound bottom xs ↔ Sound bottom ys := by
  simp only [Sound, Agreeing, same]

/-- Of what builders define, only the rules with a result above bottom tell their tables
apart. -/
theorem table_unique {t u : MeetTable} (bottom : b.bottom = c.bottom)
    (rules : ∀ r, r.result ≠ c.bottom → (r ∈ b.rules ↔ r ∈ c.rules)) (left : b.build = .ok t)
    (right : c.build = .ok u) : t = u := by
  have sameBottom : t.bottom = u.bottom := by
    rw [bottom_of_build left, bottom_of_build right, bottom]
  refine MeetTable.ext_rules sameBottom (Ordered.eq_of_ascending t.ascending u.ascending ?_)
  intro r
  rw [mem_rules_iff_of_build left, mem_rules_iff_of_build right, bottom]
  exact and_congr_left (rules r)

/-- Builders with the same bottom and the same rules build the same table, or none. -/
theorem build_congr (bottom : b.bottom = c.bottom) (rules : ∀ r, r ∈ b.rules ↔ r ∈ c.rules) :
    (∃ t, b.build = .ok t ∧ c.build = .ok t) ∨
      ∃ e f, b.build = .error e ∧ c.build = .error f := by
  have together : (∃ t, b.build = .ok t) ↔ ∃ u, c.build = .ok u := by
    rw [exists_build_eq_ok_iff, exists_build_eq_ok_iff, bottom, sound_congr rules]
  cases left : b.build with
  | ok t =>
      obtain ⟨u, right⟩ := together.1 ⟨t, left⟩
      rw [table_unique bottom (fun r _ => rules r) left right]
      exact .inl ⟨u, rfl, right⟩
  | error e =>
      cases right : c.build with
      | ok u =>
          obtain ⟨t, built⟩ := together.2 ⟨u, right⟩
          rw [left] at built
          cases built
      | error f => exact .inr ⟨e, f, rfl, rfl⟩

/-- **The order of definitions does not matter, and neither do repetitions.**  Steps
that leave the same bottom and define the same directed rules build the same table
or fail together, each with an error of its own. -/
theorem build_ofSteps_congr {steps others : List BuildStep}
    (bottom : BuildStep.lastBottom steps = BuildStep.lastBottom others)
    (rules : ∀ r, r ∈ BuildStep.directedRules steps ↔ r ∈ BuildStep.directedRules others) :
    (∃ t, (ofSteps steps).build = .ok t ∧ (ofSteps others).build = .ok t) ∨
      ∃ e f, (ofSteps steps).build = .error e ∧ (ofSteps others).build = .error f := by
  rw [← bottom_ofSteps, ← bottom_ofSteps] at bottom
  rw [← rules_ofSteps, ← rules_ofSteps] at rules
  exact build_congr bottom rules

/-- The definitions of `redundant` from behind and from the other side, one of them
repeated, with the bottom set between them and after another one. -/
def reshuffled : List BuildStep :=
  [.bottom ⟨"A"⟩, .defineSymmetric ⟨"C"⟩ ⟨"B"⟩ ⟨"NONE"⟩, .bottom ⟨"NONE"⟩,
    .define ⟨"A"⟩ ⟨"C"⟩ ⟨"C"⟩, .define ⟨"B"⟩ ⟨"A"⟩ ⟨"B"⟩, .define ⟨"A"⟩ ⟨"B"⟩ ⟨"B"⟩,
    .define ⟨"A"⟩ ⟨"C"⟩ ⟨"C"⟩]

/-- Two results for one pair, and only then a rule that breaks absorption. -/
def conflictFirst : List BuildStep :=
  [.define ⟨"A"⟩ ⟨"A"⟩ ⟨"A"⟩, .define ⟨"A"⟩ ⟨"A"⟩ ⟨"B"⟩, .define ⟨"BOTTOM"⟩ ⟨"A"⟩ ⟨"A"⟩]

/-- What is built from definitions in another order, and what is refused for another
reason. -/
theorem reshuffled_builds_alike :
    (∃ t, (ofSteps redundant).build = .ok t ∧ (ofSteps reshuffled).build = .ok t) ∧
    ∃ e f, e ≠ f ∧ (ofSteps conflictFirst).build = .error e ∧
      (ofSteps conflictFirst.reverse).build = .error f := by
  have forth : ∀ r ∈ BuildStep.directedRules redundant,
      r ∈ BuildStep.directedRules reshuffled := by decide
  have back : ∀ r ∈ BuildStep.directedRules reshuffled,
      r ∈ BuildStep.directedRules redundant := by decide
  have reversed : ∀ r, r ∈ BuildStep.directedRules conflictFirst ↔
      r ∈ BuildStep.directedRules conflictFirst.reverse := by
    intro r
    simp only [BuildStep.directedRules, List.mem_flatMap, List.mem_reverse]
  have bottom : BuildStep.lastBottom redundant = BuildStep.lastBottom reshuffled := by decide
  have default : BuildStep.lastBottom conflictFirst =
      BuildStep.lastBottom conflictFirst.reverse := by decide
  constructor
  · rcases build_ofSteps_congr bottom fun r => ⟨forth r, back r⟩ with built | ⟨e, f, failed, -⟩
    · exact built
    · cases failed
  · rcases build_ofSteps_congr default reversed with ⟨t, built, -⟩ | ⟨e, f, left, right⟩
    · cases built
    · refine ⟨e, f, ?_, left, right⟩
      cases left
      cases right
      decide

end Clearance.Builder

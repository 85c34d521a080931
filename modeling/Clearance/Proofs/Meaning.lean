/-
# Clearance.Proofs.Meaning -- what a table answers, read off its definitions

A table that was built stores less than was defined.  Rules whose result is
bottom are left out, a rule defined again is stored once, and the rules stand in
the order of their operands.  None of this shows in its meets: two labels meet to
the result of any rule defined for them, and to bottom where none is.

Both parts rest on the checks.  A rule left out could be missed only if another
one for the same operands had been kept, and then the two would disagree.

* `mem_rules_iff_of_build`: what is stored are the rules defined with a result
  above bottom;
* `meet_of_mem_of_build`, `meet_of_undefined`: the meets of defined and of
  undefined operands;
* `build_ofSteps_means`: all of this for the builder of any list of steps.
-/
import Mathlib.Tactic.ByContra
import Clearance.Proofs.Construction

namespace Clearance

set_option autoImplicit false

namespace Builder

/-- Among rules that agree, one is alone with its operands. -/
theorem eq_of_agreeing {rules : List MeetRule} (agree : Agreeing rules) :
    ∀ r ∈ rules, ∀ s ∈ rules, MeetRule.compareOperands r s = .eq → r = s := by
  intro r hr s hs same
  have concerns := MeetRule.compareOperands_eq_iff.1 same
  have result := agree r hr s hs concerns
  obtain ⟨left, right⟩ := concerns
  cases r; cases s
  cases left; cases right; cases result
  rfl

variable {b : Builder} {t : MeetTable}

/-- What is stored are the rules defined with a result above bottom. -/
theorem mem_rules_iff_of_build (built : b.build = .ok t) {r : MeetRule} :
    r ∈ t.rules ↔ r ∈ b.rules ∧ r.result ≠ b.bottom := by
  obtain ⟨-, -, rules⟩ := b.build_eq_ok_iff.1 built
  have agree : Agreeing (b.rules.filter fun r => r.result ≠ b.bottom) :=
    agreeing_of_subset (sound_of_build built).2 fun r member => (List.mem_filter.1 member).1
  rw [rules, Ordered.mem_ofList_iff (eq_of_agreeing agree), List.mem_filter, decide_eq_true_iff]

/-- A meet above bottom was defined. -/
theorem mem_of_meet_ne_bottom (built : b.build = .ok t) {x y : Label}
    (above : t.meet x y ≠ b.bottom) : ⟨x, y, t.meet x y⟩ ∈ b.rules := by
  rw [← bottom_of_build built] at above
  have stored : ⟨x, y, t.meet x y⟩ ∈ t.rules := t.rule_of_meet_ne_bottom above
  exact ((mem_rules_iff_of_build built).1 stored).1

/-- The operands of a rule meet to its result, whether the rule is stored or not. -/
theorem meet_of_mem_of_build (built : b.build = .ok t) {r : MeetRule} (defined : r ∈ b.rules) :
    t.meet r.left r.right = r.result := by
  by_cases atBottom : r.result = b.bottom
  · by_contra differs
    -- the rule was left out, so its operands meet above bottom by another one
    have other := mem_of_meet_ne_bottom built (atBottom ▸ differs)
    exact differs ((sound_of_build built).2 _ other r defined ⟨rfl, rfl⟩)
  · exact t.meet_of_mem ((mem_rules_iff_of_build built).2 ⟨defined, atBottom⟩)

/-- Labels no rule is about meet to bottom. -/
theorem meet_of_undefined (built : b.build = .ok t) {x y : Label}
    (undefined : ∀ r ∈ b.rules, ¬ r.Concerns x y) : t.meet x y = b.bottom := by
  by_contra above
  exact undefined _ (mem_of_meet_ne_bottom built above) ⟨rfl, rfl⟩

/-- **What a table means that was built.**  Over the bottom set last and the
directed rules of all steps, two labels meet to the result of a rule about them,
and to bottom if there is none.  Bottom absorbs every label, and the rules stored
are those that do not mention it. -/
theorem build_ofSteps_means (steps : List BuildStep) {t : MeetTable}
    (built : (ofSteps steps).build = .ok t) :
    let bottom := BuildStep.lastBottom steps
    let rules := BuildStep.directedRules steps
    (∀ x y m, ⟨x, y, m⟩ ∈ rules → t.meet x y = m) ∧
    (∀ x y, (∀ r ∈ rules, ¬ r.Concerns x y) → t.meet x y = bottom) ∧
    t.bottom = bottom ∧
    (∀ l, t.meet bottom l = bottom ∧ t.meet l bottom = bottom) ∧
    ∀ r, r ∈ t.rules ↔ r ∈ rules ∧ r.left ≠ bottom ∧ r.right ≠ bottom ∧ r.result ≠ bottom := by
  intro bottom rules
  have sameBottom : (ofSteps steps).bottom = bottom := bottom_ofSteps steps
  have sameRules : (ofSteps steps).rules = rules := rules_ofSteps steps
  have tableBottom : t.bottom = bottom := (bottom_of_build built).trans sameBottom
  refine ⟨fun x y m defined => ?_, fun x y undefined => ?_, tableBottom, fun l => ?_, fun r => ?_⟩
  · rw [← sameRules] at defined
    exact meet_of_mem_of_build built defined
  · rw [← sameRules] at undefined
    exact (meet_of_undefined built undefined).trans sameBottom
  · rw [← tableBottom]
    exact ⟨t.meet_bottom_left l, t.meet_bottom_right l⟩
  · rw [← tableBottom, ← sameRules]
    constructor
    · intro stored
      exact ⟨((mem_rules_iff_of_build built).1 stored).1, t.avoids_bottom r stored⟩
    · rintro ⟨defined, -, -, above⟩
      rw [bottom_of_build built] at above
      exact (mem_rules_iff_of_build built).2 ⟨defined, above⟩

/-- Definitions that say more than a table keeps: `A` and `B` twice from one side,
`B` and `C` meeting to the bottom that is set only at the end. -/
def redundant : List BuildStep :=
  [.defineSymmetric ⟨"A"⟩ ⟨"B"⟩ ⟨"B"⟩, .define ⟨"B"⟩ ⟨"A"⟩ ⟨"B"⟩, .define ⟨"A"⟩ ⟨"C"⟩ ⟨"C"⟩,
    .defineSymmetric ⟨"B"⟩ ⟨"C"⟩ ⟨"NONE"⟩, .bottom ⟨"NONE"⟩]

/-- What is defined twice, from one side only, as bottom and not at all. -/
theorem redundant_means :
    ∃ t, (ofSteps redundant).build = .ok t ∧
      t.rules = [⟨⟨"A"⟩, ⟨"B"⟩, ⟨"B"⟩⟩, ⟨⟨"A"⟩, ⟨"C"⟩, ⟨"C"⟩⟩, ⟨⟨"B"⟩, ⟨"A"⟩, ⟨"B"⟩⟩] ∧
      t.meet ⟨"B"⟩ ⟨"A"⟩ = ⟨"B"⟩ ∧ t.meet ⟨"A"⟩ ⟨"C"⟩ = ⟨"C"⟩ ∧ t.meet ⟨"C"⟩ ⟨"B"⟩ = ⟨"NONE"⟩ ∧
      t.meet ⟨"C"⟩ ⟨"A"⟩ = ⟨"NONE"⟩ ∧ t.meet ⟨"NONE"⟩ ⟨"D"⟩ = ⟨"NONE"⟩ := by
  refine ⟨(ofSteps redundant).build.toOption.get (by decide), rfl, rfl, ?_⟩
  obtain ⟨defined, undefined, -, absorbs, -⟩ := build_ofSteps_means redundant rfl
  exact ⟨defined _ _ _ (by decide), defined _ _ _ (by decide), defined _ _ _ (by decide),
    undefined _ _ (by decide), (absorbs _).1⟩

end Builder

end Clearance

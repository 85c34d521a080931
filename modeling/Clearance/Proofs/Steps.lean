/-
# Clearance.Proofs.Steps -- what a list of builder steps comes to

A builder takes its steps one after the other.  What they leave behind can be
read off the list: the bottom of the last step that sets one
(`BuildStep.lastBottom`), and the directed rules of all steps in the order they
were defined (`BuildStep.directedRules`).  A symmetric definition stands for two
directed rules, or one where its operands are the same; a chain stands for the
rules `chainRules` writes out.

`bottom_ofSteps` and `rules_ofSteps` say that this is what the builder has.
-/
import Clearance.MeetTable.Chain

namespace Clearance

set_option autoImplicit false

namespace BuildStep

/-- The bottom a step sets. -/
def bottom? : BuildStep → Option Label
  | .bottom label => some label
  | _ => none

/-- The directed rules a step defines, in order. -/
def rules : BuildStep → List MeetRule
  | .bottom _ => []
  | .define a b m => [⟨a, b, m⟩]
  | .defineSymmetric a b m => if a = b then [⟨a, b, m⟩] else [⟨a, b, m⟩, ⟨b, a, m⟩]
  | .chain levels => chainRules levels

/-- The bottom that counts after some steps: the last one set. -/
def lastBottom (steps : List BuildStep) : Label :=
  (steps.filterMap bottom?).getLast?.getD .defaultBottom

/-- The directed rules of some steps in order of definition. -/
def directedRules (steps : List BuildStep) : List MeetRule :=
  steps.flatMap rules

theorem directedRules_append (steps more : List BuildStep) :
    directedRules (steps ++ more) = directedRules steps ++ directedRules more :=
  List.flatMap_append

/-- Steps that set no bottom leave the one set before. -/
theorem lastBottom_append (steps : List BuildStep) {more : List BuildStep}
    (noBottom : ∀ s ∈ more, s.bottom? = none) :
    lastBottom (steps ++ more) = lastBottom steps := by
  rw [lastBottom, List.filterMap_append, List.filterMap_eq_nil_iff.2 noBottom, List.append_nil]
  rfl

end BuildStep

namespace Builder

/-! ## Chains -/

theorem rules_foldl_defineSymmetric (b : Builder) (high : Label) (lows : List Label) :
    (lows.foldl (fun b low => b.defineSymmetric high low low) b).rules =
      b.rules ++ lows.flatMap fun low =>
        if high ≠ low then [⟨high, low, low⟩, ⟨low, high, low⟩] else [⟨high, low, low⟩] := by
  induction lows generalizing b with
  | nil => simp
  | cons low lows ih =>
      rw [List.foldl_cons, ih, rules_defineSymmetric, List.flatMap_cons]
      by_cases same : high = low <;> simp [same]

@[simp] theorem bottom_foldl_defineSymmetric (b : Builder) (high : Label) (lows : List Label) :
    (lows.foldl (fun b low => b.defineSymmetric high low low) b).bottom = b.bottom := by
  induction lows generalizing b with
  | nil => rfl
  | cons low lows ih => rw [List.foldl_cons, ih, bottom_defineSymmetric]

/-- Defining a chain defines its rules, in the order they are written out. -/
theorem rules_defineChain (b : Builder) (levels : List Label) :
    (b.defineChain levels).rules = b.rules ++ chainRules levels := by
  induction levels generalizing b with
  | nil => simp [defineChain, chainRules]
  | cons high lower ih =>
      rw [defineChain, ih, rules_foldl_defineSymmetric, chainRules, List.append_assoc]

@[simp] theorem bottom_defineChain (b : Builder) (levels : List Label) :
    (b.defineChain levels).bottom = b.bottom := by
  induction levels generalizing b with
  | nil => rfl
  | cons high lower ih => rw [defineChain, ih, bottom_foldl_defineSymmetric]

/-! ## Steps -/

theorem rules_apply (b : Builder) (s : BuildStep) : (b.apply s).rules = b.rules ++ s.rules := by
  cases s with
  | bottom label => exact (List.append_nil _).symm
  | define left right result => rfl
  | defineSymmetric left right result =>
      rw [apply, rules_defineSymmetric, BuildStep.rules]
      split <;> rfl
  | chain levels => exact b.rules_defineChain levels

theorem bottom_apply (b : Builder) (s : BuildStep) :
    (b.apply s).bottom = s.bottom?.getD b.bottom := by
  cases s with
  | bottom label => rfl
  | define left right result => rfl
  | defineSymmetric left right result => exact b.bottom_defineSymmetric left right result
  | chain levels => exact b.bottom_defineChain levels

theorem rules_foldl_apply (b : Builder) (steps : List BuildStep) :
    (steps.foldl apply b).rules = b.rules ++ BuildStep.directedRules steps := by
  induction steps generalizing b with
  | nil => exact (List.append_nil _).symm
  | cons s steps ih =>
      rw [List.foldl_cons, ih, rules_apply, List.append_assoc]
      rfl

theorem bottom_foldl_apply (b : Builder) (steps : List BuildStep) :
    (steps.foldl apply b).bottom = (steps.filterMap BuildStep.bottom?).getLast?.getD b.bottom := by
  induction steps generalizing b with
  | nil => rfl
  | cons s steps ih =>
      rw [List.foldl_cons, ih, bottom_apply]
      cases set : s.bottom? with
      | none => rw [List.filterMap_cons_none set, Option.getD_none]
      | some label => rw [List.filterMap_cons_some set, List.getLast?_cons]; rfl

/-- A builder has the rules of its steps. -/
theorem rules_ofSteps (steps : List BuildStep) :
    (ofSteps steps).rules = BuildStep.directedRules steps :=
  rules_foldl_apply {} steps

/-- A builder has the bottom that was set last. -/
theorem bottom_ofSteps (steps : List BuildStep) :
    (ofSteps steps).bottom = BuildStep.lastBottom steps :=
  bottom_foldl_apply {} steps

end Builder

end Clearance

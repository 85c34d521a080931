/-
# Clearance.MeetTable.Builder -- checked construction of a meet table

A `Builder` collects a bottom label and directed rules in order of definition;
the last bottom set is the one that counts, for rules before it as well.
`build` refuses, in this order:

* an empty bottom;
* the first rule that breaks absorption, an operand being bottom and the result
  not, or that gives a pair of operands a second result.  A rule that does both
  is reported for absorption.

Rules whose result is bottom say no more than a missing rule.  They take part in
the checks, and the table leaves them out.

`BuildStep` is one call on a builder as a value, so that a whole construction is
a list (`Builder.ofSteps`).
-/
import Clearance.MeetTable.Basic

namespace Clearance

set_option autoImplicit false

/-- Why a builder's definitions make no table. -/
inductive BuildError where
  | emptyBottom
  | bottomNotAbsorbing (left right result : Label)
  | conflictingDefinition (left right existing new : Label)
deriving DecidableEq

namespace BuildError

def message : BuildError → String
  | emptyBottom => "bottom element label must not be empty"
  | bottomNotAbsorbing a b r =>
      "bottom is not absorbing: meet(" ++ a.text ++ ", " ++ b.text ++ ") is defined as " ++ r.text
  | conflictingDefinition a b existing new =>
      "conflicting definition for meet(" ++ a.text ++ ", " ++ b.text ++ "): " ++
        existing.text ++ " vs " ++ new.text

/-- The error with its parts named, as a diagnostic shows it. -/
def describe : BuildError → String
  | emptyBottom => "EmptyBottom"
  | bottomNotAbsorbing a b r =>
      "BottomNotAbsorbing \x7b a: " ++ a.describe ++ ", b: " ++ b.describe ++
        ", result: " ++ r.describe ++ " \x7d"
  | conflictingDefinition a b existing new =>
      "ConflictingDefinition \x7b a: " ++ a.describe ++ ", b: " ++ b.describe ++
        ", existing: " ++ existing.describe ++ ", new: " ++ new.describe ++ " \x7d"

end BuildError

/-- The bottom label of a builder that was given none. -/
def Label.defaultBottom : Label :=
  ⟨"BOTTOM"⟩

/-- A bottom label and directed rules in order of definition, not yet checked. -/
structure Builder where
  bottom : Label := .defaultBottom
  rules : List MeetRule := []
deriving DecidableEq

/-- One call on a builder. -/
inductive BuildStep where
  | bottom (label : Label)
  | define (left right result : Label)
  | defineSymmetric (left right result : Label)
  | chain (levels : List Label)
deriving DecidableEq

namespace MeetRule

/-- An operand is `bottom` and the result is not. -/
def BreaksAbsorption (r : MeetRule) (bottom : Label) : Prop :=
  (r.left = bottom ∨ r.right = bottom) ∧ r.result ≠ bottom

instance (r : MeetRule) (bottom : Label) : Decidable (r.BreaksAbsorption bottom) :=
  inferInstanceAs (Decidable (_ ∧ _))

/-- A rule that respects absorption and has a result above bottom avoids bottom. -/
theorem avoids_of_absorption {r : MeetRule} {bottom : Label}
    (respects : ¬ r.BreaksAbsorption bottom) (above : r.result ≠ bottom) : r.Avoids bottom :=
  ⟨fun left => respects ⟨.inl left, above⟩, fun right => respects ⟨.inr right, above⟩, above⟩

end MeetRule

namespace MeetTable

/-- The table of the rules with a result above `bottom`; of several rules about
the same operands, the last. -/
def ofRules (bottom : Label) (ne : bottom.text ≠ "") (rules : List MeetRule)
    (respect : ∀ r ∈ rules, ¬ r.BreaksAbsorption bottom) : MeetTable where
  bottom := bottom
  rules := Ordered.ofList MeetRule.compareOperands (rules.filter fun r => r.result ≠ bottom)
  bottom_text_ne := ne
  ascending := Ordered.ascending_ofList _
  avoids_bottom := fun r member => by
    obtain ⟨defined, above⟩ := List.mem_filter.1 (Ordered.mem_of_mem_ofList member)
    exact MeetRule.avoids_of_absorption (respect r defined) (of_decide_eq_true above)

end MeetTable

namespace Builder

def setBottom (b : Builder) (label : Label) : Builder :=
  { b with bottom := label }

/-- One directed rule more. -/
def define (b : Builder) (left right result : Label) : Builder :=
  { b with rules := b.rules ++ [⟨left, right, result⟩] }

/-- The same result in both directions; equal operands need one rule only. -/
def defineSymmetric (b : Builder) (left right result : Label) : Builder :=
  if left = right then b.define left right result
  else (b.define left right result).define right left result

/-- A total order, highest level first: two levels meet to the lower one. -/
def defineChain (b : Builder) : List Label → Builder
  | [] => b
  | high :: lower =>
      ((high :: lower).foldl (fun b low => b.defineSymmetric high low low) b).defineChain lower

def apply (b : Builder) : BuildStep → Builder
  | .bottom label => b.setBottom label
  | .define left right result => b.define left right result
  | .defineSymmetric left right result => b.defineSymmetric left right result
  | .chain levels => b.defineChain levels

/-- The builder after some steps, from the beginning. -/
def ofSteps (steps : List BuildStep) : Builder :=
  steps.foldl apply {}

/-- Check one rule against those defined before it. -/
def checkRule (bottom : Label) (earlier : List MeetRule) (r : MeetRule) :
    Except BuildError Unit :=
  if r.BreaksAbsorption bottom then
    .error (.bottomNotAbsorbing r.left r.right r.result)
  else
    match earlier.find? fun e => e.Concerns r.left r.right with
    | some e =>
        if e.result = r.result then .ok ()
        else .error (.conflictingDefinition r.left r.right e.result r.result)
    | none => .ok ()

/-- Check rules one by one, each against all before it; `earlier` has the rules
already checked, the latest first. -/
def checkRules (bottom : Label) (earlier : List MeetRule) :
    List MeetRule → Except BuildError Unit
  | [] => .ok ()
  | r :: rest =>
      (checkRule bottom earlier r).bind fun _ => checkRules bottom (r :: earlier) rest

theorem not_breaksAbsorption_of_checkRule {bottom : Label} {earlier : List MeetRule}
    {r : MeetRule} (passed : checkRule bottom earlier r = .ok ()) :
    ¬ r.BreaksAbsorption bottom := by
  intro breaks
  simp [checkRule, breaks] at passed

theorem checkRules_cons_eq_ok_iff {bottom : Label} {earlier rest : List MeetRule} {r : MeetRule} :
    checkRules bottom earlier (r :: rest) = .ok () ↔
      checkRule bottom earlier r = .ok () ∧ checkRules bottom (r :: earlier) rest = .ok () := by
  cases h : checkRule bottom earlier r <;> simp [checkRules, h, Except.bind]

/-- Rules that pass the checks keep bottom absorbing. -/
theorem not_breaksAbsorption_of_checkRules {bottom : Label} {earlier rules : List MeetRule}
    (passed : checkRules bottom earlier rules = .ok ()) :
    ∀ r ∈ rules, ¬ r.BreaksAbsorption bottom := by
  induction rules generalizing earlier with
  | nil => simp
  | cons r rest ih =>
      obtain ⟨first, others⟩ := checkRules_cons_eq_ok_iff.1 passed
      intro s member
      rcases List.mem_cons.1 member with rfl | member
      · exact not_breaksAbsorption_of_checkRule first
      · exact ih others s member

/-- The table the builder defines. -/
def build (b : Builder) : Except BuildError MeetTable :=
  if empty : b.bottom.text = "" then .error .emptyBottom
  else
    match passed : checkRules b.bottom [] b.rules with
    | .error e => .error e
    | .ok () => .ok (.ofRules b.bottom empty b.rules (not_breaksAbsorption_of_checkRules passed))

/-- A build fails for an empty bottom, and else as its checks fail. -/
theorem build_eq_error_iff (b : Builder) {e : BuildError} :
    b.build = .error e ↔
      (b.bottom.text = "" ∧ e = .emptyBottom) ∨
      (b.bottom.text ≠ "" ∧ checkRules b.bottom [] b.rules = .error e) := by
  unfold build
  split
  · rename_i empty
    simp [empty, eq_comm]
  · rename_i ne
    split
    · rename_i failed
      simp [ne, failed]
    · rename_i passed
      simp [ne, passed]

/-- A build that succeeds has passed the checks, and its table keeps the rules
with a result above bottom. -/
theorem build_eq_ok_iff (b : Builder) {t : MeetTable} :
    b.build = .ok t ↔
      checkRules b.bottom [] b.rules = .ok () ∧ t.bottom = b.bottom ∧
        t.rules = Ordered.ofList MeetRule.compareOperands
          (b.rules.filter fun r => r.result ≠ b.bottom) := by
  unfold build
  split
  · rename_i empty
    constructor
    · intro built
      cases built
    · rintro ⟨-, sameBottom, -⟩
      exact absurd (sameBottom ▸ empty) t.bottom_text_ne
  · split
    · rename_i failed
      simp [failed]
    · rename_i passed
      constructor
      · intro built
        cases built
        exact ⟨passed, rfl, rfl⟩
      · rintro ⟨-, sameBottom, sameRules⟩
        exact congrArg _ (MeetTable.ext_rules sameBottom.symm sameRules.symm)

@[simp] theorem bottom_define (b : Builder) (left right result : Label) :
    (b.define left right result).bottom = b.bottom :=
  rfl

@[simp] theorem bottom_defineSymmetric (b : Builder) (left right result : Label) :
    (b.defineSymmetric left right result).bottom = b.bottom := by
  unfold defineSymmetric
  split <;> rfl

@[simp] theorem rules_define (b : Builder) (left right result : Label) :
    (b.define left right result).rules = b.rules ++ [⟨left, right, result⟩] :=
  rfl

theorem rules_defineSymmetric (b : Builder) (left right result : Label) :
    (b.defineSymmetric left right result).rules =
      b.rules ++ ⟨left, right, result⟩ :: if left = right then [] else [⟨right, left, result⟩] := by
  unfold defineSymmetric
  split <;> simp

end Builder

end Clearance

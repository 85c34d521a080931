/-
# Clearance.MeetTable.Basic -- a finite table of meets over all labels

A `MeetTable` gives every two labels a meet, though it has finitely many rules:
a pair without a rule meets to the table's bottom.  No semilattice law is
assumed; a table may be asymmetric, and `MeetTable.Laws` reports what it breaks.

What every table does keep is in the type.  Its rules ascend by operands, so a
pair has one rule, and no rule mentions bottom, so

* bottom absorbs: `meet_bottom_left`, `meet_bottom_right`;
* a meet other than bottom comes from a rule: `meet_eq_iff_mem`,
  `rule_of_meet_ne_bottom`.

`meetAll` folds from the left: nothing meets to bottom, a single label is
itself, and `permits` asks whether anything is left above bottom.
-/
import Clearance.Label

namespace Clearance

set_option autoImplicit false

/-- `left` and `right`, in this order, meet to `result`. -/
structure MeetRule where
  left : Label
  right : Label
  result : Label
deriving DecidableEq, Hashable

namespace MeetRule

/-- Rules are ordered by their left operands, then by their right ones. -/
def compareOperands : MeetRule → MeetRule → Ordering :=
  compareLex (compareOn left) (compareOn right)

instance : Std.TransCmp compareOperands :=
  inferInstanceAs (Std.TransCmp (compareLex (compareOn left) (compareOn right)))

/-- The rule is about `a` and `b` in this order. -/
def Concerns (r : MeetRule) (a b : Label) : Prop :=
  r.left = a ∧ r.right = b

instance (r : MeetRule) (a b : Label) : Decidable (r.Concerns a b) :=
  inferInstanceAs (Decidable (_ ∧ _))

/-- The label is no operand of the rule and not its result. -/
def Avoids (r : MeetRule) (l : Label) : Prop :=
  r.left ≠ l ∧ r.right ≠ l ∧ r.result ≠ l

instance (r : MeetRule) (l : Label) : Decidable (r.Avoids l) :=
  inferInstanceAs (Decidable (_ ∧ _))

/-- The labels a rule mentions. -/
def labels (r : MeetRule) : List Label :=
  [r.left, r.right, r.result]

theorem left_mem_labels (r : MeetRule) : r.left ∈ r.labels := by
  simp [labels]

theorem right_mem_labels (r : MeetRule) : r.right ∈ r.labels := by
  simp [labels]

theorem result_mem_labels (r : MeetRule) : r.result ∈ r.labels := by
  simp [labels]

theorem compareOperands_eq_iff {r s : MeetRule} :
    compareOperands r s = .eq ↔ r.Concerns s.left s.right := by
  simp only [compareOperands, compareLex_eq_eq, compareOn, Std.LawfulEqOrd.compare_eq_iff_eq,
    Concerns]

end MeetRule

/-- A bottom label and finitely many rules; every other pair meets to bottom. -/
structure MeetTable where
  bottom : Label
  rules : List MeetRule
  bottom_text_ne : bottom.text ≠ ""
  ascending : Ordered.Ascending MeetRule.compareOperands rules
  avoids_bottom : ∀ r ∈ rules, r.Avoids bottom

namespace MeetTable

/-- Two tables are the same when bottom and rules are. -/
theorem ext_rules {s t : MeetTable} (bottom : s.bottom = t.bottom) (rules : s.rules = t.rules) :
    s = t := by
  cases s; cases t
  cases bottom; cases rules
  rfl

/-- Bottom and rules are compared.  Written out by rows, the rules that builders keep compare
alike (`MeetTable.eq_iff_rows_kept_eq`). -/
instance : DecidableEq MeetTable := fun s t =>
  decidable_of_iff (s.bottom = t.bottom ∧ s.rules = t.rules)
    ⟨fun h => ext_rules h.1 h.2, fun h => h ▸ ⟨rfl, rfl⟩⟩

instance : Hashable MeetTable :=
  ⟨fun t => mixHash (hash t.bottom) (hash t.rules)⟩

/-- The rule about `a` and `b`. -/
def rule? (t : MeetTable) (a b : Label) : Option MeetRule :=
  t.rules.find? fun r => r.Concerns a b

def meet (t : MeetTable) (a b : Label) : Label :=
  match t.rule? a b with
  | some r => r.result
  | none => t.bottom

/-- The meet of a list, from the left. -/
def meetAll (t : MeetTable) : List Label → Label
  | [] => t.bottom
  | l :: ls => ls.foldl t.meet l

/-- The labels meet to something above bottom. -/
def permits (t : MeetTable) (ls : List Label) : Bool :=
  t.meetAll ls ≠ t.bottom

/-- Number of rules. -/
def size (t : MeetTable) : Nat :=
  t.rules.length

def isEmpty (t : MeetTable) : Bool :=
  t.rules.isEmpty

/-- Bottom and every label of a rule, in ascending order. -/
def domain (t : MeetTable) : List Label :=
  Label.sorted (t.bottom :: t.rules.flatMap MeetRule.labels)

/-! ## A meet other than bottom comes from a rule -/

theorem rule?_eq_some_iff (t : MeetTable) {a b : Label} {r : MeetRule} :
    t.rule? a b = some r ↔ r ∈ t.rules ∧ r.Concerns a b := by
  have shared : ∀ e f : MeetRule, decide (e.Concerns a b) = true → decide (f.Concerns a b) = true →
      MeetRule.compareOperands e f = .eq := by
    intro e f he hf
    obtain ⟨rfl, rfl⟩ := of_decide_eq_true hf
    exact MeetRule.compareOperands_eq_iff.2 (of_decide_eq_true he)
  rw [rule?, Ordered.find?_eq_some_iff_of_ascending shared t.ascending, decide_eq_true_iff]

theorem meet_of_mem (t : MeetTable) {r : MeetRule} (member : r ∈ t.rules) :
    t.meet r.left r.right = r.result := by
  simp [meet, t.rule?_eq_some_iff.2 ⟨member, rfl, rfl⟩]

theorem meet_eq_iff_mem (t : MeetTable) {a b m : Label} (proper : m ≠ t.bottom) :
    t.meet a b = m ↔ (⟨a, b, m⟩ : MeetRule) ∈ t.rules := by
  constructor
  · intro meets
    simp only [meet] at meets
    split at meets
    · rename_i r found
      obtain ⟨member, rfl, rfl⟩ := t.rule?_eq_some_iff.1 found
      subst meets
      exact member
    · exact absurd meets.symm proper
  · intro member
    exact t.meet_of_mem member

/-- A meet above bottom is the result of a rule. -/
theorem rule_of_meet_ne_bottom (t : MeetTable) {a b : Label} (above : t.meet a b ≠ t.bottom) :
    (⟨a, b, t.meet a b⟩ : MeetRule) ∈ t.rules :=
  (t.meet_eq_iff_mem above).1 rfl

@[simp] theorem meet_bottom_left (t : MeetTable) (l : Label) : t.meet t.bottom l = t.bottom := by
  by_cases h : t.meet t.bottom l = t.bottom
  · exact h
  · exact absurd rfl (t.avoids_bottom _ (t.rule_of_meet_ne_bottom h)).1

@[simp] theorem meet_bottom_right (t : MeetTable) (l : Label) : t.meet l t.bottom = t.bottom := by
  by_cases h : t.meet l t.bottom = t.bottom
  · exact h
  · exact absurd rfl (t.avoids_bottom _ (t.rule_of_meet_ne_bottom h)).2.1

@[simp] theorem meetAll_nil (t : MeetTable) : t.meetAll [] = t.bottom :=
  rfl

@[simp] theorem meetAll_singleton (t : MeetTable) (l : Label) : t.meetAll [l] = l :=
  rfl

theorem meetAll_concat (t : MeetTable) {ls : List Label} (l : Label) (ne : ls ≠ []) :
    t.meetAll (ls ++ [l]) = t.meet (t.meetAll ls) l := by
  cases ls with
  | nil => exact absurd rfl ne
  | cons x xs => simp [meetAll]

theorem permits_iff (t : MeetTable) (ls : List Label) :
    t.permits ls = true ↔ t.meetAll ls ≠ t.bottom := by
  simp [permits]

theorem mem_domain_iff (t : MeetTable) {l : Label} :
    l ∈ t.domain ↔ l = t.bottom ∨ ∃ r ∈ t.rules, l ∈ r.labels := by
  simp [domain, Label.mem_sorted]

end MeetTable

end Clearance

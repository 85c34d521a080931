/-
# Clearance.Proofs.Listing -- the rules of a table are its canonical listing

The rules of a table can be read off one by one, and they are worth reading: they are the
meets above bottom, no more and no less, and in one order.  So whatever is said of the
rules is said of what the table answers, its size, whether it is empty and which labels
it knows (`size_eq_zero_iff`, `domain_eq_of_meet_eq`).

The listing is faithful as well.  Defined again, in whatever order, over the same bottom,
the rules build the table they were read from (`build_listing`).  And they are what a
builder keeps that files its rules by rows, however it came by them.
-/
import Clearance.Proofs.DefinitionOrder
import Clearance.Proofs.LawReport
import Clearance.Proofs.Observation
import Clearance.Proofs.Rows

namespace Clearance

set_option autoImplicit false

namespace MeetRule

/-- The step that defines the rule. -/
def step (r : MeetRule) : BuildStep :=
  .define r.left r.right r.result

theorem compareOperands_eq_lt_iff {r s : MeetRule} :
    compareOperands r s = .lt ↔
      compare r.left s.left = .lt ∨ r.left = s.left ∧ compare r.right s.right = .lt := by
  simp only [compareOperands, compareLex, compareOn, Ordering.then_eq_lt,
    Std.LawfulEqOrd.compare_eq_iff_eq]

end MeetRule

namespace MeetTable

variable {t u : MeetTable}

/-- Without rules there is nothing above bottom. -/
theorem size_eq_zero_iff : t.size = 0 ↔ ∀ a b, t.meet a b = t.bottom := by
  rw [size, List.length_eq_zero_iff]
  constructor
  · intro none a b
    by_contra above
    have rule := t.rule_of_meet_ne_bottom above
    simp [none] at rule
  · intro atBottom
    refine List.eq_nil_iff_forall_not_mem.2 fun r member => ?_
    obtain ⟨meets, above⟩ := (mem_rules_iff r).1 member
    rw [atBottom] at meets
    exact above meets.symm

/-- The labels a table knows are told by its meets. -/
theorem domain_eq_of_meet_eq (same : ∀ a b, u.meet a b = t.meet a b) : u.domain = t.domain := by
  rw [domain, domain, bottom_eq_of_meet_eq same, rules_eq_of_meet_eq same]

end MeetTable

namespace Builder

open MeetTable

theorem directedRules_map_step (rules : List MeetRule) :
    BuildStep.directedRules (rules.map MeetRule.step) = rules := by
  induction rules with
  | nil => rfl
  | cons r rules ih => simpa [BuildStep.directedRules, BuildStep.rules, MeetRule.step] using ih

/-- Defined again, the rules of a table build it. -/
theorem build_listing (t : MeetTable) {rules : List MeetRule}
    (same : ∀ r, r ∈ rules ↔ r ∈ t.rules) :
    (ofSteps (.bottom t.bottom :: rules.map MeetRule.step)).build = .ok t := by
  have noBottom : ∀ s ∈ rules.map MeetRule.step, s.bottom? = none :=
    List.forall_mem_map.2 fun _ _ => rfl
  have bottom : (ofSteps (.bottom t.bottom :: rules.map MeetRule.step)).bottom = t.bottom :=
    (bottom_ofSteps _).trans (BuildStep.lastBottom_append [.bottom t.bottom] noBottom)
  have defined : (ofSteps (.bottom t.bottom :: rules.map MeetRule.step)).rules = rules :=
    (rules_ofSteps _).trans (directedRules_map_step rules)
  have own := build_rules t
  rcases build_congr (c := ⟨t.bottom, t.rules⟩) bottom (by rwa [defined]) with
    ⟨u, built, again⟩ | ⟨_, _, _, failed⟩
  · rw [built, ← again, own]
  · rw [own] at failed
    cases failed

end Builder

namespace MeetTable

open Builder

/-- **The rules are the canonical listing of a table.**  They ascend by their operands, the
left ones first, and are the meets above bottom.  The size is their number; a table is
empty when it is zero, and that is when every two labels meet to bottom.  The domain ascends
and has bottom and the labels of the rules, and tables with the same meets have the same
domain.  Defined in any order over its bottom, its rules build the table.  And any
builder that builds it, filing its rules by rows, keeps these rules: as many cells, a row
exactly if the table is not empty, and in each cell the meet of its labels. -/
theorem rules_are_canonical_listing (t : MeetTable) :
    (t.rules.Pairwise fun r s =>
      compare r.left s.left = .lt ∨ r.left = s.left ∧ compare r.right s.right = .lt) ∧
    (∀ a b m, ⟨a, b, m⟩ ∈ t.rules ↔ m = t.meet a b ∧ m ≠ t.bottom) ∧
    (t.size = t.rules.length ∧ (t.isEmpty = true ↔ t.size = 0) ∧
      (t.size = 0 ↔ ∀ a b, t.meet a b = t.bottom)) ∧
    (Ordered.Ascending compare t.domain ∧
      (∀ l, l ∈ t.domain ↔
        l = t.bottom ∨ ∃ r ∈ t.rules, l = r.left ∨ l = r.right ∨ l = r.result) ∧
      ∀ u : MeetTable, (∀ a b, u.meet a b = t.meet a b) → u.domain = t.domain) ∧
    (∀ rules : List MeetRule, rules.Perm t.rules →
      (ofSteps (.bottom t.bottom :: rules.map MeetRule.step)).build = .ok t) ∧
    ∀ b : Builder, b.build = .ok t →
      (Rows.kept b).rules = t.rules ∧ (Rows.kept b).size = t.size ∧
      ((Rows.kept b).rows = [] ↔ t.isEmpty = true) ∧
      ∀ x y, ((Rows.kept b).cell? x y).getD t.bottom = t.meet x y := by
  refine ⟨?_, fun a b m => ?_, ⟨rfl, ?_, size_eq_zero_iff⟩,
    ⟨t.domain_ascending, fun l => ?_, fun u => domain_eq_of_meet_eq⟩, ?_, ?_⟩
  · exact t.ascending.imp MeetRule.compareOperands_eq_lt_iff.1
  · rw [mem_rules_iff]
    exact and_congr_left' eq_comm
  · rw [isEmpty, size, List.isEmpty_iff, List.length_eq_zero_iff]
  · rw [t.mem_domain_iff]
    simp only [MeetRule.labels, List.mem_cons, List.not_mem_nil, or_false]
  · intro rules perm
    exact build_listing t fun r => perm.mem_iff
  · intro b built
    exact ⟨Rows.rules_kept built, Rows.size_kept built, Rows.rows_kept_eq_nil_iff built,
      Rows.meet_kept built⟩

/-- The rules of `oneSided`, and more that come to nothing: the row of `C` has no cell when
it is tidied. -/
def padded : Builder :=
  ⟨oneSided.bottom, ⟨⟨"C"⟩, ⟨"A"⟩, oneSided.bottom⟩ :: oneSided.rules.reverse ++ oneSided.rules⟩

/-- A table read off and defined from behind, and filed by rows with a row left over. -/
theorem oneSided_listing :
    oneSided.rules.reverse.Perm oneSided.rules ∧
    (ofSteps (.bottom oneSided.bottom :: oneSided.rules.reverse.map MeetRule.step)).build =
      .ok oneSided ∧
    padded.build = .ok oneSided ∧
    (Rows.kept padded).rules = oneSided.rules ∧ (Rows.kept padded).size = oneSided.size ∧
    (Rows.kept padded).rows.length = 1 := by
  obtain ⟨-, -, -, -, again, filed⟩ := oneSided.rules_are_canonical_listing
  have built : padded.build = .ok oneSided := rfl
  have perm : oneSided.rules.reverse.Perm oneSided.rules := List.reverse_perm _
  exact ⟨perm, again _ perm, built, (filed padded built).1, (filed padded built).2.1, by decide⟩

end MeetTable

end Clearance

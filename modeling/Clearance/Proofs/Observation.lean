/-
# Clearance.Proofs.Observation -- a table is what it answers

Two tables are the same when their bottoms and their rules are.  Asking for meets
tells as much: tables that agree on the meet of every two labels are the same
(`eq_iff_meet_eq`).

The rules are recovered from the meets because a table keeps them in one form.
Each rule has a result above bottom, so the rules are the meets above bottom
(`mem_rules_iff`), and they ascend, so a list of rules is determined by its
members.  The bottom needs no hypothesis of its own: labels neither table has
heard of meet to bottom in both (`bottom_eq_of_meet_eq`).

Written out by rows, what two builders keep is compared row by row and cell by
cell.  That comes to the same (`eq_iff_rows_kept_eq`), but only because the rows
were tidied: a cell at bottom, or a row with no cell left, would tell apart tables
that answer alike.
-/
import Mathlib.Data.Fintype.EquivFin
import Clearance.Proofs.FailClosed
import Clearance.Proofs.Rows

namespace Clearance

set_option autoImplicit false

/-! ## Labels a table has never heard of -/

instance : Infinite Label :=
  Infinite.of_injective Label.mk fun _ _ => congrArg Label.text

theorem Label.exists_not_mem (ls : List Label) : ∃ l, l ∉ ls := by
  obtain ⟨l, fresh⟩ := Infinite.exists_notMem_finset ls.toFinset
  exact ⟨l, fun member => fresh (List.mem_toFinset.2 member)⟩

namespace MeetTable

variable {s t : MeetTable}

/-- The rules are the meets above bottom. -/
theorem mem_rules_iff (r : MeetRule) :
    r ∈ t.rules ↔ t.meet r.left r.right = r.result ∧ r.result ≠ t.bottom := by
  constructor
  · intro stored
    exact ⟨t.meet_of_mem stored, (t.avoids_bottom r stored).2.2⟩
  · rintro ⟨meets, above⟩
    exact (t.meet_eq_iff_mem above).1 meets

/-- Agreeing meets force equal bottoms: what neither table knows meets to both. -/
theorem bottom_eq_of_meet_eq (same : ∀ a b, s.meet a b = t.meet a b) : s.bottom = t.bottom := by
  obtain ⟨l, fresh⟩ := Label.exists_not_mem (s.domain ++ t.domain)
  obtain ⟨unknownS, unknownT⟩ := not_or.1 (mt List.mem_append.2 fresh)
  calc s.bottom
    _ = s.meet l l := (s.meet_eq_bottom_of_left_unknown unknownS l).symm
    _ = t.meet l l := same l l
    _ = t.bottom := t.meet_eq_bottom_of_left_unknown unknownT l

theorem rules_eq_of_meet_eq (same : ∀ a b, s.meet a b = t.meet a b) : s.rules = t.rules := by
  refine Ordered.eq_of_ascending s.ascending t.ascending fun r => ?_
  rw [mem_rules_iff, mem_rules_iff, same, bottom_eq_of_meet_eq same]

theorem eq_iff_meet_eq : s = t ↔ ∀ a b, s.meet a b = t.meet a b := by
  constructor
  · rintro rfl a b
    rfl
  · intro same
    exact ext_rules (bottom_eq_of_meet_eq same) (rules_eq_of_meet_eq same)

variable {b c : Builder}

/-- Tables are the same when their builders keep the same rows over the same bottom. -/
theorem eq_iff_rows_kept_eq (hs : b.build = .ok s) (ht : c.build = .ok t) :
    s = t ↔ s.bottom = t.bottom ∧ (Rows.kept b).rows = (Rows.kept c).rows := by
  rw [Rows.rows_kept_eq_iff hs ht]
  constructor
  · rintro rfl
    exact ⟨rfl, rfl⟩
  · rintro ⟨bottom, rules⟩
    exact ext_rules bottom rules

/-- **Structure is observation.**  Tables that were built have the same bottom and the same
rows exactly when they agree on the meet of every two labels, whatever their bottoms, and
that is when they compare equal.  So meets that agree force equal bottoms. -/
theorem beq_iff_meet_eq (hs : b.build = .ok s) (ht : c.build = .ok t) :
    (s.bottom = t.bottom ∧ (Rows.kept b).rows = (Rows.kept c).rows ↔
      ∀ x y, s.meet x y = t.meet x y) ∧
    ((s == t) = true ↔ s.bottom = t.bottom ∧ (Rows.kept b).rows = (Rows.kept c).rows) ∧
    ((s == t) = true ↔ ∀ x y, s.meet x y = t.meet x y) ∧
    ((∀ x y, s.meet x y = t.meet x y) → s.bottom = t.bottom) := by
  rw [beq_iff_eq]
  exact ⟨(eq_iff_rows_kept_eq hs ht).symm.trans eq_iff_meet_eq, eq_iff_rows_kept_eq hs ht,
    eq_iff_meet_eq, bottom_eq_of_meet_eq⟩

/-- Two rules of `A`. -/
def bare : Builder :=
  .ofSteps [.define ⟨"A"⟩ ⟨"A"⟩ ⟨"A"⟩, .define ⟨"A"⟩ ⟨"B"⟩ ⟨"A"⟩]

/-- The same from behind, after a rule that leaves the row of `C` without a cell. -/
def overfull : Builder :=
  .ofSteps [.define ⟨"C"⟩ ⟨"A"⟩ .defaultBottom, .define ⟨"A"⟩ ⟨"B"⟩ ⟨"A"⟩,
    .define ⟨"A"⟩ ⟨"A"⟩ ⟨"A"⟩]

/-- The same two rules over another bottom. -/
def rebased : Builder :=
  .ofSteps [.bottom ⟨"NONE"⟩, .define ⟨"A"⟩ ⟨"A"⟩ ⟨"A"⟩, .define ⟨"A"⟩ ⟨"B"⟩ ⟨"A"⟩]

/-- A row that was left over makes no difference to any two labels.  The bottom makes one,
though the rows are the same. -/
theorem overfull_and_rebased_observed :
    ∃ s t u, overfull.build = .ok s ∧ bare.build = .ok t ∧ rebased.build = .ok u ∧
      (Rows.ofRules overfull.rules).rows.length = 2 ∧
      (Rows.kept overfull).rows = (Rows.kept bare).rows ∧ (∀ x y, s.meet x y = t.meet x y) ∧
      (Rows.kept rebased).rows = (Rows.kept bare).rows ∧ ¬ ∀ x y, u.meet x y = t.meet x y := by
  have tidied : (Rows.kept overfull).rows = (Rows.kept bare).rows := by decide
  refine ⟨overfull.build.toOption.get (by decide), bare.build.toOption.get (by decide),
    rebased.build.toOption.get (by decide), rfl, rfl, rfl, by decide, tidied, ?_, by decide, ?_⟩
  · exact (beq_iff_meet_eq (b := overfull) (c := bare) rfl rfl).1.1 ⟨rfl, tidied⟩
  · obtain ⟨-, -, -, bottom⟩ := beq_iff_meet_eq (b := rebased) (c := bare) rfl rfl
    exact fun same => absurd (bottom same) (by decide)

end MeetTable

end Clearance

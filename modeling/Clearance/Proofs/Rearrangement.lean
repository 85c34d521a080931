/-
# Clearance.Proofs.Rearrangement -- labels may be folded in any order, and left out

A fold starts from its first label and takes the others as they come.  Where the
report has nothing against commutativity and associativity, this cannot be told
from the result: a list and its permutations fold to the same label
(`meetAll_perm`).  Labels may be unknown and may be repeated, and a label need
not meet itself to itself.

To leave labels out can only help.  The labels that stay may be moved to the
front, and a fold that ends above bottom was above bottom all along
(`permits_of_sublist`).  That some label stays is needed: nothing at all meets
to bottom.

An independent check folds each side apart, so it does not see which label of a
side stands on which dimension, and gives the same reason for a denial.
-/
import Clearance.Proofs.Modes

namespace Clearance.MeetTable

set_option autoImplicit false

variable (t : MeetTable)

section Lawful

variable [Std.Associative t.meet] [Std.Commutative t.meet]

/-- Permuted lists fold to the same label. -/
theorem meetAll_perm {xs ys : List Label} (perm : xs.Perm ys) : t.meetAll xs = t.meetAll ys := by
  induction perm with
  | nil => rfl
  | @cons l xs ys perm ih =>
      -- a label with nothing behind it is its own fold, and no meet
      by_cases nothing : xs = []
      · subst nothing
        rw [perm.nil_eq]
      · have others : ys ≠ [] := by
          rintro rfl
          exact nothing perm.eq_nil
        rw [t.meetAll_cons l nothing, t.meetAll_cons l others, ih]
  | swap l m rest =>
      have swapped : t.meet m l = t.meet l m := Std.Commutative.comm ..
      simp only [meetAll, List.foldl_cons, swapped]
  | trans _ _ first second => exact first.trans second

theorem permits_perm {xs ys : List Label} (perm : xs.Perm ys) : t.permits xs = t.permits ys := by
  rw [permits, permits, t.meetAll_perm perm]

/-- Some of the labels of a permitted list, in their order, are permitted. -/
theorem permits_of_sublist {xs ys : List Label} (sub : ys.Sublist xs) (ne : ys ≠ [])
    (permitted : t.permits xs = true) : t.permits ys = true := by
  obtain ⟨rest, perm⟩ := sub.exists_perm_append
  rw [t.permits_perm perm] at permitted
  exact t.permits_of_append ne permitted

end Lawful

/-- **Order does not matter, and fewer labels never hurt.**  Where the report has
nothing against commutativity and associativity, permuted lists fold to the same
label, and what is left of a permitted list, permuted and thinned out but not
empty, is permitted.  An independent check decides the same, with the same reason,
when the labels of a side change places. -/
theorem rearranging_keeps_decisions (commutative : t.Keeps .commutativity)
    (associative : t.Keeps .associativity) :
    (∀ xs ys : List Label, ys.Perm xs → t.meetAll ys = t.meetAll xs) ∧
    (∀ xs ys zs : List Label, ys.Perm xs → zs.Sublist ys → zs ≠ [] →
      t.permits xs = true → t.permits zs = true) ∧
    ∀ (c c' : Context) (request request' : Profile), c'.labels.Perm c.labels →
      request'.labels.Perm request.labels →
      t.evaluate c' request' .independent = t.evaluate c request .independent := by
  have := t.commutative_of_keeps commutative
  have := t.associative_of_keeps associative
  refine ⟨fun xs ys perm => t.meetAll_perm perm, ?_, ?_⟩
  · intro xs ys zs perm sub ne permitted
    rw [← t.permits_perm perm] at permitted
    exact t.permits_of_sublist sub ne permitted
  · intro c c' request request' context requested
    rw [evaluate_independent, evaluate_independent, t.permits_perm context,
      t.permits_perm requested]

/-- Labels that are used and new in any order, one of them alone, and the same
labels on other dimensions. -/
theorem wearing_rearranged :
    (wearing.Keeps .commutativity ∧ wearing.Keeps .associativity ∧
      ¬ wearing.Keeps .idempotence) ∧
    wearing.meetAll [⟨"USED"⟩, ⟨"NEW"⟩, ⟨"NEW"⟩] = wearing.meetAll [⟨"NEW"⟩, ⟨"USED"⟩, ⟨"NEW"⟩] ∧
    (wearing.permits [⟨"NEW"⟩, ⟨"USED"⟩, ⟨"NEW"⟩] = true ∧
      wearing.permits [⟨"USED"⟩, ⟨"NEW"⟩] = true) ∧
    wearing.evaluate ⟨(Profile.uniform ⟨"NEW"⟩).set .financial ⟨"USED"⟩⟩ (.uniform ⟨"OLD"⟩)
        .independent =
      wearing.evaluate ⟨(Profile.uniform ⟨"NEW"⟩).set .host ⟨"USED"⟩⟩ (.uniform ⟨"OLD"⟩)
        .independent := by
  have commutative : wearing.Keeps .commutativity := by decide
  have associative : wearing.Keeps .associativity := by decide
  have permitted : wearing.permits [⟨"NEW"⟩, ⟨"USED"⟩, ⟨"NEW"⟩] = true := by decide
  obtain ⟨folds, thinned, decisions⟩ := wearing.rearranging_keeps_decisions commutative associative
  have perm : [(⟨"USED"⟩ : Label), ⟨"NEW"⟩, ⟨"NEW"⟩].Perm [⟨"NEW"⟩, ⟨"USED"⟩, ⟨"NEW"⟩] := by decide
  refine ⟨⟨commutative, associative, by decide⟩, folds _ _ perm, ⟨permitted, ?_⟩, ?_⟩
  · exact thinned _ _ _ perm (by simp) (by simp) permitted
  · exact decisions _ _ _ _ (by decide) (.refl _)

end Clearance.MeetTable

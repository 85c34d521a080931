/-
# Clearance.Proofs.LawfulFold -- folding a table that is commutative and associative

`MeetTable.meetAll` folds from the left and starts from the first label, so a
list with nothing to start from is a case of its own.  Where the meet is
associative the place of the brackets does not matter, and where it is
commutative as well two folds run side by side are one:

* `meetAll_append`: a list is folded by parts, none of them empty;
* `meetAll_map_meet`: the meets of two families, folded, are the meet of their
  folds.  Here the empty family is no exception, because bottom absorbs.

Neither needs idempotence.  `associative_of_keeps` and `commutative_of_keeps`
take the laws from a report that has nothing against them.
-/
import Clearance.Proofs.LawReport

namespace Clearance.MeetTable

set_option autoImplicit false

variable (t : MeetTable)

theorem associative_of_keeps (keeps : t.Keeps .associativity) : Std.Associative t.meet :=
  ⟨t.keeps_associativity_iff.1 keeps⟩

theorem commutative_of_keeps (keeps : t.Keeps .commutativity) : Std.Commutative t.meet :=
  ⟨t.keeps_commutativity_iff.1 keeps⟩

section Associative

variable [Std.Associative t.meet]

/-- A list is folded by parts. -/
theorem meetAll_append {xs ys : List Label} (hx : xs ≠ []) (hy : ys ≠ []) :
    t.meetAll (xs ++ ys) = t.meet (t.meetAll xs) (t.meetAll ys) := by
  obtain ⟨x, xs, rfl⟩ := List.exists_cons_of_ne_nil hx
  obtain ⟨y, ys, rfl⟩ := List.exists_cons_of_ne_nil hy
  simp only [meetAll, List.cons_append, List.foldl_append, List.foldl_cons]
  exact List.foldl_assoc

theorem meetAll_cons (l : Label) {ls : List Label} (ne : ls ≠ []) :
    t.meetAll (l :: ls) = t.meet l (t.meetAll ls) :=
  t.meetAll_append (List.cons_ne_nil l []) ne

variable [Std.Commutative t.meet]

/-- Two families met member by member fold to the meet of their folds. -/
theorem meetAll_map_meet {ι : Type} (f g : ι → Label) (is : List ι) :
    t.meetAll (is.map fun i => t.meet (f i) (g i)) =
      t.meet (t.meetAll (is.map f)) (t.meetAll (is.map g)) := by
  induction is with
  | nil => simp
  | cons i is ih =>
      cases is with
      | nil => rfl
      | cons j is =>
          have step : ∀ h : ι → Label, t.meetAll ((i :: j :: is).map h) =
              t.meet (h i) (t.meetAll ((j :: is).map h)) := fun h => t.meetAll_cons _ (by simp)
          calc t.meetAll ((i :: j :: is).map fun i => t.meet (f i) (g i))
            _ = t.meet (t.meet (f i) (g i))
                  (t.meetAll ((j :: is).map fun i => t.meet (f i) (g i))) := step _
            _ = t.meet (t.meet (f i) (g i))
                  (t.meet (t.meetAll ((j :: is).map f)) (t.meetAll ((j :: is).map g))) := by rw [ih]
            _ = t.meet (t.meet (f i) (t.meetAll ((j :: is).map f)))
                  (t.meet (g i) (t.meetAll ((j :: is).map g))) := by ac_rfl
            _ = t.meet (t.meetAll ((i :: j :: is).map f)) (t.meetAll ((i :: j :: is).map g)) := by
                  rw [step f, step g]

end Associative

end Clearance.MeetTable

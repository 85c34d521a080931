/-
# Clearance.Proofs.ReportOrder -- the report is the ascending list of all breaks

`MeetTable.lawBreaks` goes through the domain once for each law.  What it lists is
told by its members and their order, and both are told here:

* a break is listed exactly when its law fails at labels of the domain, with the
  meets the table gives (`lawBreaks_exact`);
* breaks ascend, by law and within a law by the labels it fails at, as words
  (`ascending_lawBreaks`).  So none stands twice.

Only commutativity leaves places out on purpose: a pair is tried with its lesser
label first.  Bottom is tried with the rest and never reported, because a law that
fails has one side above bottom, and a meet above bottom has known operands
(`knows_of_mem_arguments`).
-/
import Clearance.Proofs.LawReport

namespace Clearance

set_option autoImplicit false

/-- The place of a law in the report. -/
def Law.index : Law → Nat
  | .idempotence => 0
  | .commutativity => 1
  | .associativity => 2

namespace LawBreak

/-- The labels the law fails at. -/
def arguments : LawBreak → List Label
  | .notIdempotent a _ => [a]
  | .notCommutative a b _ _ => [a, b]
  | .notAssociative a b c _ _ => [a, b, c]

/-- Breaks are ordered by their laws, those of one law by their arguments, label by
label. -/
def compareReported : LawBreak → LawBreak → Ordering :=
  compareLex (compareOn fun b => b.law.index) (compareOn arguments)

instance : Std.TransCmp compareReported :=
  inferInstanceAs (Std.TransCmp (compareLex (compareOn fun b => b.law.index) (compareOn arguments)))

theorem compareReported_of_law_lt {b c : LawBreak} (less : b.law.index < c.law.index) :
    compareReported b c = .lt := by
  have first : compare b.law.index c.law.index = .lt := Nat.compare_eq_lt.2 less
  simp [compareReported, compareLex, compareOn, first]

theorem compareReported_of_arguments_lt {b c : LawBreak} (same : b.law = c.law)
    (less : compare b.arguments c.arguments = .lt) : compareReported b c = .lt := by
  simp [compareReported, compareLex, compareOn, same, less]

end LawBreak

/-! ## Pairs and triples ascend as words -/

section Words

variable {α : Type} [Ord α]

theorem compare_cons_of_lt {x y : α} (less : compare x y = .lt) (xs ys : List α) :
    compare (x :: xs) (y :: ys) = .lt := by
  simp [List.compare_cons_cons, less]

variable [Std.TransOrd α]

theorem compare_cons_self (x : α) (xs ys : List α) :
    compare (x :: xs) (x :: ys) = compare xs ys := by
  simp [List.compare_cons_cons]

theorem orderedPairs_ascending {xs : List α} (sorted : Ordered.Ascending compare xs) :
    (orderedPairs xs).Pairwise fun p q => compare [p.1, p.2] [q.1, q.2] = .lt := by
  induction xs with
  | nil => exact .nil
  | cons x xs ih =>
      obtain ⟨below, rest⟩ := List.pairwise_cons.1 sorted
      apply List.pairwise_append.2
      refine ⟨List.pairwise_map.2 (rest.imp fun {y z} less => ?_), ih rest, ?_⟩
      · rw [compare_cons_self]
        exact compare_cons_of_lt less [] []
      · intro p hp q hq
        obtain ⟨y, -, rfl⟩ := List.mem_map.1 hp
        have later : q.1 ∈ xs := ((mem_orderedPairs_iff rest).1 hq).1
        exact compare_cons_of_lt (below q.1 later) _ _

theorem orderedTriples_ascending {xs : List α} (sorted : Ordered.Ascending compare xs) :
    (orderedTriples xs).Pairwise fun p q =>
      compare [p.1, p.2.1, p.2.2] [q.1, q.2.1, q.2.2] = .lt := by
  apply List.pairwise_flatMap.2
  constructor
  · intro x _
    apply List.pairwise_flatMap.2
    constructor
    · intro y _
      refine List.pairwise_map.2 (sorted.imp fun {z w} less => ?_)
      rw [compare_cons_self, compare_cons_self]
      exact compare_cons_of_lt less [] []
    · refine sorted.imp fun {y w} less p hp q hq => ?_
      obtain ⟨z, -, rfl⟩ := List.mem_map.1 hp
      obtain ⟨v, -, rfl⟩ := List.mem_map.1 hq
      rw [compare_cons_self]
      exact compare_cons_of_lt less _ _
  · refine sorted.imp fun {x w} less p hp q hq => ?_
    obtain ⟨y, -, hp⟩ := List.mem_flatMap.1 hp
    obtain ⟨v, -, hq⟩ := List.mem_flatMap.1 hq
    obtain ⟨z, -, rfl⟩ := List.mem_map.1 hp
    obtain ⟨u, -, rfl⟩ := List.mem_map.1 hq
    exact compare_cons_of_lt less _ _

end Words

/-! ## The order of the report -/

/-- What is tried at `x` is one law, at the labels `at x`. -/
def TriesLaw {α : Type} (attempt : α → Option LawBreak) (law : Law) (place : α → List Label) :
    Prop :=
  ∀ x b, attempt x = some b → b.law = law ∧ b.arguments = place x

section Tries

variable {α : Type} {attempt : α → Option LawBreak} {law : Law} {place : α → List Label}

theorem TriesLaw.law_of_mem (tries : TriesLaw attempt law place) {xs : List α} {b : LawBreak}
    (member : b ∈ xs.filterMap attempt) : b.law = law := by
  obtain ⟨x, -, found⟩ := List.mem_filterMap.1 member
  exact (tries x b found).1

/-- Tried at ascending places, a law has ascending breaks. -/
theorem TriesLaw.ascending (tries : TriesLaw attempt law place) {xs : List α}
    (sorted : xs.Pairwise fun x y => compare (place x) (place y) = .lt) :
    Ordered.Ascending LawBreak.compareReported (xs.filterMap attempt) := by
  refine List.pairwise_filterMap.2 (sorted.imp fun {x y} less b atX c atY => ?_)
  obtain ⟨lawB, argumentsB⟩ := tries x b atX
  obtain ⟨lawC, argumentsC⟩ := tries y c atY
  apply LawBreak.compareReported_of_arguments_lt
  · rw [lawB, lawC]
  · rwa [argumentsB, argumentsC]

end Tries

namespace MeetTable

variable (t : MeetTable)

theorem triesLaw_idempotenceBreak? :
    TriesLaw t.idempotenceBreak? .idempotence fun a => [a] := by
  intro a b found
  obtain ⟨-, rfl⟩ := t.idempotenceBreak?_eq_some_iff.1 found
  exact ⟨rfl, rfl⟩

theorem triesLaw_commutativityBreak? :
    TriesLaw t.commutativityBreak? .commutativity fun p => [p.1, p.2] := by
  intro p b found
  obtain ⟨-, rfl⟩ := t.commutativityBreak?_eq_some_iff.1 found
  exact ⟨rfl, rfl⟩

theorem triesLaw_associativityBreak? :
    TriesLaw t.associativityBreak? .associativity fun q => [q.1, q.2.1, q.2.2] := by
  intro q b found
  obtain ⟨-, rfl⟩ := t.associativityBreak?_eq_some_iff.1 found
  exact ⟨rfl, rfl⟩

/-- Breaks of idempotence come first, those of associativity last, and those of one
law ascend. -/
theorem ascending_lawBreaks : Ordered.Ascending LawBreak.compareReported t.lawBreaks := by
  have idempotence := t.triesLaw_idempotenceBreak?
  have commutativity := t.triesLaw_commutativityBreak?
  have associativity := t.triesLaw_associativityBreak?
  have sorted := t.domain_ascending
  have before : ∀ {x y : LawBreak} {k l : Law}, x.law = k → y.law = l → k.index < l.index →
      LawBreak.compareReported x y = .lt := by
    intro x y k l hx hy less
    apply LawBreak.compareReported_of_law_lt
    rwa [hx, hy]
  refine List.pairwise_append.2 ⟨List.pairwise_append.2 ⟨?_, ?_, ?_⟩, ?_, ?_⟩
  · exact idempotence.ascending (sorted.imp fun less => compare_cons_of_lt less [] [])
  · exact commutativity.ascending (orderedPairs_ascending sorted)
  · intro x hx y hy
    exact before (idempotence.law_of_mem hx) (commutativity.law_of_mem hy) (by decide)
  · exact associativity.ascending (orderedTriples_ascending sorted)
  · intro x hx y hy
    rcases List.mem_append.1 hx with hx | hx
    · exact before (idempotence.law_of_mem hx) (associativity.law_of_mem hy) (by decide)
    · exact before (commutativity.law_of_mem hx) (associativity.law_of_mem hy) (by decide)

/-- What is reported is reported at known labels. -/
theorem knows_of_mem_arguments {b : LawBreak} (reported : b ∈ t.lawBreaks) :
    ∀ l ∈ b.arguments, t.Knows l := by
  cases b with
  | notIdempotent a m =>
      obtain ⟨known, -⟩ := t.notIdempotent_mem_lawBreaks_iff.1 reported
      simpa [LawBreak.arguments] using known
  | notCommutative a b ab ba =>
      obtain ⟨-, rfl, rfl, breaks⟩ := t.notCommutative_mem_lawBreaks_iff.1 reported
      simpa [LawBreak.arguments] using t.knows_of_not_commutative breaks
  | notAssociative a b c left right =>
      obtain ⟨rfl, rfl, breaks⟩ := t.notAssociative_mem_lawBreaks_iff.1 reported
      simpa [LawBreak.arguments] using t.knows_of_not_associative breaks

/-- **The report is the ascending list of the broken laws.**  Breaks of idempotence
come before those of commutativity, and these before those of associativity; within a
law they ascend by the labels it fails at, and none stands twice.  Listed are: each
label of the domain but bottom that does not meet itself to itself; each two labels of
the domain, the lesser one first, whose meets differ; each three labels of the domain
that meet differently from the left and from the right.  Each is listed with the meets the
table gives, and none at bottom. -/
theorem lawBreaks_exact :
    Ordered.Ascending LawBreak.compareReported t.lawBreaks ∧ t.lawBreaks.Nodup ∧
    (∀ a m, .notIdempotent a m ∈ t.lawBreaks ↔
      (a ∈ t.domain ∧ a ≠ t.bottom) ∧ t.meet a a = m ∧ m ≠ a) ∧
    (∀ a b ab ba, .notCommutative a b ab ba ∈ t.lawBreaks ↔
      (a ∈ t.domain ∧ b ∈ t.domain ∧ compare a b = .lt) ∧
        t.meet a b = ab ∧ t.meet b a = ba ∧ ab ≠ ba) ∧
    (∀ a b c left right, .notAssociative a b c left right ∈ t.lawBreaks ↔
      (a ∈ t.domain ∧ b ∈ t.domain ∧ c ∈ t.domain) ∧
        t.meet (t.meet a b) c = left ∧ t.meet a (t.meet b c) = right ∧ left ≠ right) ∧
    ∀ b ∈ t.lawBreaks, t.bottom ∉ b.arguments := by
  refine ⟨t.ascending_lawBreaks, Ordered.nodup_of_ascending t.ascending_lawBreaks, ?_, ?_, ?_, ?_⟩
  · intro a m
    exact t.notIdempotent_mem_lawBreaks_iff
  · intro a b ab ba
    rw [notCommutative_mem_lawBreaks_iff]
    constructor
    · rintro ⟨less, rfl, rfl, breaks⟩
      obtain ⟨ha, hb⟩ := t.knows_of_not_commutative breaks
      exact ⟨⟨ha.1, hb.1, less⟩, rfl, rfl, breaks⟩
    · rintro ⟨⟨-, -, less⟩, differ⟩
      exact ⟨less, differ⟩
  · intro a b c left right
    rw [notAssociative_mem_lawBreaks_iff]
    constructor
    · rintro ⟨rfl, rfl, breaks⟩
      obtain ⟨ha, hb, hc⟩ := t.knows_of_not_associative breaks
      exact ⟨⟨ha.1, hb.1, hc.1⟩, rfl, rfl, breaks⟩
    · rintro ⟨-, differ⟩
      exact differ
  · intro b reported atBottom
    exact (t.knows_of_mem_arguments reported _ atBottom).2 rfl

/-- All three laws fail on one table.  `B` meets itself to bottom, which is named as the
result and not among the arguments. -/
theorem oneSided_is_reported :
    .notIdempotent ⟨"B"⟩ oneSided.bottom ∈ oneSided.lawBreaks ∧
    .notCommutative ⟨"A"⟩ ⟨"B"⟩ ⟨"A"⟩ oneSided.bottom ∈ oneSided.lawBreaks ∧
    .notAssociative ⟨"A"⟩ ⟨"B"⟩ ⟨"B"⟩ ⟨"A"⟩ oneSided.bottom ∈ oneSided.lawBreaks ∧
    oneSided.bottom ∉ (LawBreak.notIdempotent ⟨"B"⟩ oneSided.bottom).arguments := by
  obtain ⟨-, -, idempotence, commutativity, associativity, proper⟩ := oneSided.lawBreaks_exact
  have reported := (idempotence ⟨"B"⟩ oneSided.bottom).2 (by decide)
  refine ⟨reported, ?_, ?_, proper _ reported⟩
  · exact (commutativity _ _ _ _).2 (by decide)
  · exact (associativity _ _ _ _ _).2 (by decide)

/-- The report of that table, whole. -/
example : oneSided.lawBreaks =
    [.notIdempotent ⟨"B"⟩ ⟨"BOTTOM"⟩, .notCommutative ⟨"A"⟩ ⟨"B"⟩ ⟨"A"⟩ ⟨"BOTTOM"⟩,
      .notAssociative ⟨"A"⟩ ⟨"B"⟩ ⟨"A"⟩ ⟨"A"⟩ ⟨"BOTTOM"⟩,
      .notAssociative ⟨"A"⟩ ⟨"B"⟩ ⟨"B"⟩ ⟨"A"⟩ ⟨"BOTTOM"⟩] := by
  decide

end MeetTable

end Clearance

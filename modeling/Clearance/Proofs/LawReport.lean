/-
# Clearance.Proofs.LawReport -- a finite report that decides the laws everywhere

`MeetTable.lawBreaks` tries the semilattice laws on the labels of the domain,
commutativity on each unordered pair once and idempotence not on bottom.  Yet an
empty report settles the laws for every label there is:

* a label outside the domain meets everything to bottom, from either side, so
  both sides of a law that mentions it are bottom;
* bottom absorbs, so idempotence holds at bottom;
* of two different labels of the domain one comes first, and commutativity at a
  pair says the same as at the pair turned round.

The report lists the breaks the table shows (`mem_lawBreaks_iff`), and what it
lists of commutativity and associativity can be told from the meets alone
(`notCommutative_mem_lawBreaks_iff`, `notAssociative_mem_lawBreaks_iff`).
`Keeps law` says that no reported break is of that law, and
`keeps_idempotence_iff`, `keeps_commutativity_iff` and `keeps_associativity_iff`
say what the table then satisfies, and conversely.
-/
import Mathlib.Tactic.ByContra
import Clearance.MeetTable.Laws
import Clearance.Proofs.FailClosed

namespace Clearance

set_option autoImplicit false

/-- A law of semilattices. -/
inductive Law where
  | idempotence
  | commutativity
  | associativity
deriving DecidableEq

/-- The law a reported break is of. -/
def LawBreak.law : LawBreak → Law
  | .notIdempotent .. => .idempotence
  | .notCommutative .. => .commutativity
  | .notAssociative .. => .associativity

/-! ## Pairs and triples over a list -/

/-- Over an ascending list the pairs listed are the pairs that ascend. -/
theorem mem_orderedPairs_iff {α : Type} {cmp : α → α → Ordering} [Std.OrientedCmp cmp]
    {xs : List α} (sorted : Ordered.Ascending cmp xs) {x y : α} :
    (x, y) ∈ orderedPairs xs ↔ x ∈ xs ∧ y ∈ xs ∧ cmp x y = .lt := by
  induction xs with
  | nil => simp [orderedPairs]
  | cons z zs ih =>
      obtain ⟨below, rest⟩ := List.pairwise_cons.1 sorted
      simp only [orderedPairs, List.mem_append, ih rest, List.mem_map, Prod.mk.injEq]
      constructor
      · rintro (⟨w, member, rfl, rfl⟩ | ⟨hx, hy, less⟩)
        · exact ⟨List.mem_cons_self .., List.mem_cons_of_mem _ member, below w member⟩
        · exact ⟨List.mem_cons_of_mem _ hx, List.mem_cons_of_mem _ hy, less⟩
      · rintro ⟨hx, hy, less⟩
        rcases List.mem_cons.1 hx with atX | laterX
        · rcases List.mem_cons.1 hy with atY | laterY
          · have same : cmp z z = .eq := Std.ReflCmp.compare_self
            rw [atX, atY, same] at less
            cases less
          · exact .inl ⟨y, laterY, atX.symm, rfl⟩
        · rcases List.mem_cons.1 hy with atY | laterY
          · rw [atY, Std.OrientedCmp.gt_of_lt (below x laterX)] at less
            cases less
          · exact .inr ⟨laterX, laterY, less⟩

theorem mem_orderedTriples_iff {α : Type} {xs : List α} {x y z : α} :
    (x, y, z) ∈ orderedTriples xs ↔ x ∈ xs ∧ y ∈ xs ∧ z ∈ xs := by
  constructor
  · intro member
    obtain ⟨a, first, rest⟩ := List.mem_flatMap.1 member
    obtain ⟨b, second, rest⟩ := List.mem_flatMap.1 rest
    obtain ⟨c, third, same⟩ := List.mem_map.1 rest
    cases same
    exact ⟨first, second, third⟩
  · rintro ⟨first, second, third⟩
    refine List.mem_flatMap.2 ⟨x, first, List.mem_flatMap.2 ⟨y, second, ?_⟩⟩
    exact List.mem_map_of_mem third

namespace MeetTable

variable (t : MeetTable)

/-- No reported break is of this law. -/
def Keeps (law : Law) : Prop :=
  ∀ b ∈ t.lawBreaks, b.law ≠ law

instance (law : Law) : Decidable (t.Keeps law) :=
  inferInstanceAs (Decidable (∀ b ∈ _, _))

/-! ## What is reported -/

/-- The table shows this break: its labels are ones the report tries, and the
meets it states are those of the table and break the law. -/
def Shows : LawBreak → Prop
  | .notIdempotent a m => a ∈ t.domain ∧ a ≠ t.bottom ∧ t.meet a a ≠ a ∧ t.meet a a = m
  | .notCommutative a b ab ba =>
      (a, b) ∈ orderedPairs t.domain ∧ t.meet a b ≠ t.meet b a ∧
        t.meet a b = ab ∧ t.meet b a = ba
  | .notAssociative a b c left right =>
      (a ∈ t.domain ∧ b ∈ t.domain ∧ c ∈ t.domain) ∧
        t.meet (t.meet a b) c ≠ t.meet a (t.meet b c) ∧
        t.meet (t.meet a b) c = left ∧ t.meet a (t.meet b c) = right

theorem idempotenceBreak?_eq_some_iff {a : Label} {b : LawBreak} :
    t.idempotenceBreak? a = some b ↔
      (a ≠ t.bottom ∧ t.meet a a ≠ a) ∧ .notIdempotent a (t.meet a a) = b := by
  simp [idempotenceBreak?]

theorem commutativityBreak?_eq_some_iff {p : Label × Label} {b : LawBreak} :
    t.commutativityBreak? p = some b ↔
      t.meet p.1 p.2 ≠ t.meet p.2 p.1 ∧
        .notCommutative p.1 p.2 (t.meet p.1 p.2) (t.meet p.2 p.1) = b := by
  simp [commutativityBreak?]

theorem associativityBreak?_eq_some_iff {q : Label × Label × Label} {b : LawBreak} :
    t.associativityBreak? q = some b ↔
      t.meet (t.meet q.1 q.2.1) q.2.2 ≠ t.meet q.1 (t.meet q.2.1 q.2.2) ∧
        .notAssociative q.1 q.2.1 q.2.2 (t.meet (t.meet q.1 q.2.1) q.2.2)
          (t.meet q.1 (t.meet q.2.1 q.2.2)) = b := by
  simp [associativityBreak?]

/-- The report lists the breaks the table shows. -/
theorem mem_lawBreaks_iff {b : LawBreak} : b ∈ t.lawBreaks ↔ t.Shows b := by
  simp only [lawBreaks, List.mem_append, List.mem_filterMap, idempotenceBreak?_eq_some_iff,
    commutativityBreak?_eq_some_iff, associativityBreak?_eq_some_iff]
  constructor
  · rintro ((⟨a, member, ⟨above, breaks⟩, rfl⟩ | ⟨p, member, breaks, rfl⟩) |
      ⟨q, member, breaks, rfl⟩)
    · exact ⟨member, above, breaks, rfl⟩
    · exact ⟨member, breaks, rfl, rfl⟩
    · exact ⟨mem_orderedTriples_iff.1 member, breaks, rfl, rfl⟩
  · intro shown
    cases b with
    | notIdempotent a m =>
        obtain ⟨member, above, breaks, rfl⟩ := shown
        exact .inl (.inl ⟨a, member, ⟨above, breaks⟩, rfl⟩)
    | notCommutative a b ab ba =>
        obtain ⟨member, breaks, rfl, rfl⟩ := shown
        exact .inl (.inr ⟨(a, b), member, breaks, rfl⟩)
    | notAssociative a b c left right =>
        obtain ⟨member, breaks, rfl, rfl⟩ := shown
        exact .inr ⟨(a, b, c), mem_orderedTriples_iff.2 member, breaks, rfl⟩

/-! ## The same over all labels: only the domain can break a law -/

theorem domain_ascending : Ordered.Ascending compare t.domain :=
  Label.sorted_ascending _

/-- A law that fails has a side above bottom, so it fails at known labels. -/
theorem knows_of_not_commutative {x y : Label} (breaks : t.meet x y ≠ t.meet y x) :
    t.Knows x ∧ t.Knows y := by
  by_cases atBottom : t.meet x y = t.bottom
  · rw [atBottom] at breaks
    exact (t.knows_of_meet_ne_bottom breaks.symm).symm
  · exact t.knows_of_meet_ne_bottom atBottom

theorem knows_of_not_associative {x y z : Label}
    (breaks : t.meet (t.meet x y) z ≠ t.meet x (t.meet y z)) :
    t.Knows x ∧ t.Knows y ∧ t.Knows z := by
  by_cases atBottom : t.meet (t.meet x y) z = t.bottom
  · rw [atBottom] at breaks
    obtain ⟨hx, hyz⟩ := t.knows_of_meet_ne_bottom breaks.symm
    exact ⟨hx, t.knows_of_meet_ne_bottom hyz.2⟩
  · obtain ⟨hxy, hz⟩ := t.knows_of_meet_ne_bottom atBottom
    obtain ⟨hx, hy⟩ := t.knows_of_meet_ne_bottom hxy.2
    exact ⟨hx, hy, hz⟩

theorem notIdempotent_mem_lawBreaks_iff {a m : Label} :
    .notIdempotent a m ∈ t.lawBreaks ↔ t.Knows a ∧ t.meet a a = m ∧ m ≠ a := by
  rw [mem_lawBreaks_iff]
  constructor
  · rintro ⟨member, above, breaks, rfl⟩
    exact ⟨⟨member, above⟩, rfl, breaks⟩
  · rintro ⟨⟨member, above⟩, rfl, breaks⟩
    exact ⟨member, above, breaks, rfl⟩

theorem notCommutative_mem_lawBreaks_iff {a b ab ba : Label} :
    .notCommutative a b ab ba ∈ t.lawBreaks ↔
      compare a b = .lt ∧ t.meet a b = ab ∧ t.meet b a = ba ∧ ab ≠ ba := by
  rw [mem_lawBreaks_iff]
  constructor
  · rintro ⟨listed, breaks, rfl, rfl⟩
    exact ⟨((mem_orderedPairs_iff t.domain_ascending).1 listed).2.2, rfl, rfl, breaks⟩
  · rintro ⟨less, rfl, rfl, breaks⟩
    obtain ⟨ha, hb⟩ := t.knows_of_not_commutative breaks
    exact ⟨(mem_orderedPairs_iff t.domain_ascending).2 ⟨ha.1, hb.1, less⟩, breaks, rfl, rfl⟩

theorem notAssociative_mem_lawBreaks_iff {a b c left right : Label} :
    .notAssociative a b c left right ∈ t.lawBreaks ↔
      t.meet (t.meet a b) c = left ∧ t.meet a (t.meet b c) = right ∧ left ≠ right := by
  rw [mem_lawBreaks_iff]
  constructor
  · rintro ⟨-, breaks, rfl, rfl⟩
    exact ⟨rfl, rfl, breaks⟩
  · rintro ⟨rfl, rfl, breaks⟩
    obtain ⟨hx, hy, hz⟩ := t.knows_of_not_associative breaks
    exact ⟨⟨hx.1, hy.1, hz.1⟩, breaks, rfl, rfl⟩

/-! ## The laws, each over all labels -/

theorem lawBreaks_eq_nil_iff_keeps : t.lawBreaks = [] ↔ ∀ law, t.Keeps law := by
  constructor
  · intro empty law b member
    simp [empty] at member
  · intro keeps
    refine List.eq_nil_iff_forall_not_mem.2 fun b member => ?_
    exact keeps b.law b member rfl

theorem keeps_idempotence_iff :
    t.Keeps .idempotence ↔ ∀ x ∈ t.domain, t.meet x x = x := by
  constructor
  · intro keeps x member
    by_cases atBottom : x = t.bottom
    · rw [atBottom, meet_bottom_left]
    · by_contra breaks
      exact keeps _ (t.notIdempotent_mem_lawBreaks_iff.2 ⟨⟨member, atBottom⟩, rfl, breaks⟩) rfl
  · intro idempotent b reported isLaw
    cases b with
    | notIdempotent a m =>
        obtain ⟨known, rfl, breaks⟩ := t.notIdempotent_mem_lawBreaks_iff.1 reported
        exact breaks (idempotent a known.1)
    | _ => cases isLaw

theorem keeps_commutativity_iff :
    t.Keeps .commutativity ↔ ∀ x y, t.meet x y = t.meet y x := by
  constructor
  · intro keeps x y
    -- the report stays silent at every pair that ascends, and of two labels one is first
    have ascending : ∀ a b, compare a b = .lt → t.meet a b = t.meet b a := by
      intro a b less
      by_contra breaks
      exact keeps _ (t.notCommutative_mem_lawBreaks_iff.2 ⟨less, rfl, rfl, breaks⟩) rfl
    cases order : compare x y with
    | lt => exact ascending x y order
    | eq => rw [Std.LawfulEqOrd.eq_of_compare order]
    | gt => exact (ascending y x (Std.OrientedCmp.lt_of_gt order)).symm
  · intro commutative b reported isLaw
    cases b with
    | notCommutative x y xy yx =>
        obtain ⟨-, rfl, rfl, breaks⟩ := t.notCommutative_mem_lawBreaks_iff.1 reported
        exact breaks (commutative x y)
    | _ => cases isLaw

theorem keeps_associativity_iff :
    t.Keeps .associativity ↔ ∀ x y z, t.meet (t.meet x y) z = t.meet x (t.meet y z) := by
  constructor
  · intro keeps x y z
    by_contra breaks
    exact keeps _ (t.notAssociative_mem_lawBreaks_iff.2 ⟨rfl, rfl, breaks⟩) rfl
  · intro associative b reported isLaw
    cases b with
    | notAssociative x y z left right =>
        obtain ⟨rfl, rfl, breaks⟩ := t.notAssociative_mem_lawBreaks_iff.1 reported
        exact breaks (associative x y z)
    | _ => cases isLaw

/-- **The report decides the laws.**  It is empty exactly when meet is commutative
and associative on all labels, known or not, and idempotent on the domain. -/
theorem lawBreaks_eq_nil_iff :
    t.lawBreaks = [] ↔
      (∀ x y, t.meet x y = t.meet y x) ∧
      (∀ x y z, t.meet (t.meet x y) z = t.meet x (t.meet y z)) ∧
      ∀ x ∈ t.domain, t.meet x x = x := by
  rw [lawBreaks_eq_nil_iff_keeps, ← keeps_idempotence_iff, ← keeps_commutativity_iff,
    ← keeps_associativity_iff]
  constructor
  · intro keeps
    exact ⟨keeps .commutativity, keeps .associativity, keeps .idempotence⟩
  · rintro ⟨commutative, associative, idempotent⟩ law
    cases law with
    | idempotence => exact idempotent
    | commutativity => exact commutative
    | associativity => exact associative

end MeetTable

end Clearance

/-
# Clearance.Proofs.GreatestLowerBound -- on a lawful table a fold is a greatest lower bound

Where the report is empty, `Below` orders the domain and has bottom at its foot
(`OrdersDomain`).  The order is read off the meet, and the laws give it back:

* a meet is below each operand, and above everything that is below both
  (`below_left`, `below_right`, `below_meet`);
* so the fold of labels of the domain is the greatest label below them all
  (`meetAll_greatest`), one element at a time from the right.

The labels a fold is compared with need not be of the domain.  A greatest lower
bound is unique and speaks of members only, so neither the order of a list nor
its repetitions matter, and a list is permitted exactly when something above
bottom is below all of it.
-/
import Clearance.Proofs.Privilege

namespace Clearance.MeetTable

set_option autoImplicit false

variable (t : MeetTable)

/-- `Below` is a partial order on the domain, and bottom is its least label. -/
structure OrdersDomain : Prop where
  refl : ∀ a ∈ t.domain, t.Below a a
  trans : ∀ a ∈ t.domain, ∀ b ∈ t.domain, ∀ c ∈ t.domain,
    t.Below a b → t.Below b c → t.Below a c
  antisymm : ∀ a ∈ t.domain, ∀ b ∈ t.domain, t.Below a b → t.Below b a → a = b
  bottom_mem : t.bottom ∈ t.domain
  bottom_least : ∀ a ∈ t.domain, t.Below t.bottom a

/-- The label is below all labels of the list. -/
def LowerBound (ls : List Label) (z : Label) : Prop :=
  ∀ l ∈ ls, t.Below z l

/-- The label is below all labels of the list, and above any other that is. -/
structure GreatestLowerBound (ls : List Label) (g : Label) : Prop where
  lower : t.LowerBound ls g
  greatest : ∀ z, t.LowerBound ls z → t.Below z g

variable {t}

/-! ## The order, law by law -/

theorem below_antisymm [Std.Commutative t.meet] {a b : Label} (ab : t.Below a b)
    (ba : t.Below b a) : a = b :=
  calc a
    _ = t.meet a b := ab.symm
    _ = t.meet b a := Std.Commutative.comm ..
    _ = b := ba

section Associative

variable [Std.Associative t.meet]

theorem below_trans {a b c : Label} (ab : t.Below a b) (bc : t.Below b c) : t.Below a c :=
  calc t.meet a c
    _ = t.meet (t.meet a b) c := by rw [ab]
    _ = t.meet a (t.meet b c) := Std.Associative.assoc ..
    _ = a := by rw [bc, ab]

/-- What is below both operands is below their meet. -/
theorem below_meet {a b z : Label} (left : t.Below z a) (right : t.Below z b) :
    t.Below z (t.meet a b) :=
  calc t.meet z (t.meet a b)
    _ = t.meet (t.meet z a) b := (Std.Associative.assoc ..).symm
    _ = z := by rw [left, right]

/-- A meet is below its right operand, if that one is below itself. -/
theorem below_right (a : Label) {b : Label} (self : t.Below b b) : t.Below (t.meet a b) b :=
  calc t.meet (t.meet a b) b
    _ = t.meet a (t.meet b b) := Std.Associative.assoc ..
    _ = t.meet a b := by rw [self]

/-- A meet is below its left operand, if that one is below itself. -/
theorem below_left [Std.Commutative t.meet] {a : Label} (self : t.Below a a) (b : Label) :
    t.Below (t.meet a b) a := by
  have swapped : t.meet a b = t.meet b a := Std.Commutative.comm ..
  rw [swapped]
  exact below_right b self

end Associative

/-! ## Folds -/

theorem meetAll_mem_domain {ls : List Label} (known : ∀ l ∈ ls, l ∈ t.domain) :
    t.meetAll ls ∈ t.domain := by
  cases ls with
  | nil => exact t.bottom_mem_domain
  | cons l ls => exact t.foldl_meet_mem_domain (known l (List.mem_cons_self ..)) ls

/-- Lists with the same members have the same greatest lower bound. -/
theorem GreatestLowerBound.unique [Std.Commutative t.meet] {xs ys : List Label} {g h : Label}
    (same : ∀ l, l ∈ xs ↔ l ∈ ys) (hg : t.GreatestLowerBound xs g)
    (hh : t.GreatestLowerBound ys h) : g = h := by
  have belowYs : t.LowerBound ys g := fun l member => hg.lower l ((same l).2 member)
  have belowXs : t.LowerBound xs h := fun l member => hh.lower l ((same l).1 member)
  exact below_antisymm (hh.greatest g belowYs) (hg.greatest h belowXs)

section Lawful

variable [Std.Associative t.meet] [Std.Commutative t.meet]

theorem meetAll_greatest (idempotent : ∀ l ∈ t.domain, t.Below l l) {ls : List Label}
    (ne : ls ≠ []) (known : ∀ l ∈ ls, l ∈ t.domain) :
    t.GreatestLowerBound ls (t.meetAll ls) := by
  induction ls with
  | nil => exact absurd rfl ne
  | cons a rest ih =>
      obtain ⟨knowsA, knowsRest⟩ := List.forall_mem_cons.1 known
      have selfA : t.Below a a := idempotent a knowsA
      by_cases single : rest = []
      · subst single
        constructor
        · intro l member
          rw [List.mem_singleton.1 member]
          exact selfA
        · exact fun z below => below a (List.mem_cons_self ..)
      · obtain ⟨lower, greatest⟩ := ih single knowsRest
        have selfRest := idempotent _ (meetAll_mem_domain knowsRest)
        rw [t.meetAll_cons a single]
        constructor
        · intro l member
          rcases List.mem_cons.1 member with rfl | member
          · exact below_left selfA _
          · exact below_trans (below_right a selfRest) (lower l member)
        · intro z below
          obtain ⟨belowA, belowRest⟩ := List.forall_mem_cons.1 below
          exact below_meet belowA (greatest z belowRest)

end Lawful

/-- **A fold on a lawful table is a greatest lower bound.**  Where the report is
empty, `Below` orders the domain with bottom at its foot.  The fold of labels of
the domain is of the domain, below them all, and above every label that is, known
or not.  It depends on the members of the list only, and it is above bottom
exactly when some label above bottom is below them all. -/
theorem lawful_meetAll_greatest (lawful : t.lawBreaks = []) :
    t.OrdersDomain ∧
    ∀ ls, ls ≠ [] → (∀ l ∈ ls, l ∈ t.domain) →
      t.meetAll ls ∈ t.domain ∧
      t.GreatestLowerBound ls (t.meetAll ls) ∧
      (∀ others, (∀ l, l ∈ others ↔ l ∈ ls) → t.meetAll others = t.meetAll ls) ∧
      (t.permits ls = true ↔ ∃ z, z ≠ t.bottom ∧ t.LowerBound ls z) := by
  have keeps := t.lawBreaks_eq_nil_iff_keeps.1 lawful
  have := t.associative_of_keeps (keeps .associativity)
  have := t.commutative_of_keeps (keeps .commutativity)
  have idempotent : ∀ l ∈ t.domain, t.Below l l := t.keeps_idempotence_iff.1 (keeps .idempotence)
  have orders : t.OrdersDomain :=
    { refl := idempotent
      trans := fun _ _ _ _ _ _ => below_trans
      antisymm := fun _ _ _ _ => below_antisymm
      bottom_mem := t.bottom_mem_domain
      bottom_least := fun a _ => t.meet_bottom_left a }
  refine ⟨orders, fun ls ne known => ?_⟩
  have glb : t.GreatestLowerBound ls (t.meetAll ls) := meetAll_greatest idempotent ne known
  refine ⟨meetAll_mem_domain known, glb, fun others same => ?_, ?_⟩
  · obtain ⟨l, member⟩ := List.exists_mem_of_ne_nil ls ne
    have othersNe : others ≠ [] := List.ne_nil_of_mem ((same l).2 member)
    have othersKnown : ∀ l ∈ others, l ∈ t.domain := fun l h => known l ((same l).1 h)
    exact (meetAll_greatest idempotent othersNe othersKnown).unique same glb
  · rw [permits_iff]
    constructor
    · exact fun above => ⟨_, above, glb.lower⟩
    · rintro ⟨z, above, below⟩
      exact ne_bottom_of_below (glb.greatest z below) above

/-- Two labels neither of which is below the other, and one below both. -/
def forked : MeetTable :=
  (Builder.build (.ofSteps [.chain [⟨"A"⟩, ⟨"C"⟩], .chain [⟨"B"⟩, ⟨"C"⟩],
    .defineSymmetric ⟨"A"⟩ ⟨"B"⟩ ⟨"C"⟩])).toOption.get (by decide)

/-- `C` is the greatest label below `A` and `B`, whichever comes first and however
often. -/
theorem forked_meetAll_greatest :
    (forked.lawBreaks = [] ∧ forked.OrdersDomain) ∧
    (¬ forked.Below ⟨"A"⟩ ⟨"B"⟩ ∧ ¬ forked.Below ⟨"B"⟩ ⟨"A"⟩) ∧
    forked.GreatestLowerBound [⟨"A"⟩, ⟨"B"⟩] ⟨"C"⟩ ∧
    forked.meetAll [⟨"B"⟩, ⟨"A"⟩, ⟨"B"⟩] = ⟨"C"⟩ ∧
    forked.permits [⟨"A"⟩, ⟨"B"⟩] = true := by
  have lawful : forked.lawBreaks = [] := by decide
  have known : ∀ l ∈ [(⟨"A"⟩ : Label), ⟨"B"⟩], l ∈ forked.domain := by decide
  obtain ⟨orders, folds⟩ := lawful_meetAll_greatest lawful
  obtain ⟨-, greatest, members, permitted⟩ := folds [⟨"A"⟩, ⟨"B"⟩] (by decide) known
  refine ⟨⟨lawful, orders⟩, by decide, greatest, members _ (by grind), permitted.2 ?_⟩
  exact ⟨⟨"C"⟩, by decide, greatest.lower⟩

end Clearance.MeetTable

/-
# Clearance.Proofs.ChainRules -- what the rules of one chain say

The rules of a chain are written out level by level, each with the levels below it.  Read by
places they say one thing: the levels at two places meet to the one further down
(`mem_chainRules_iff`).  Nothing here asks for levels to be distinct, and a level may have
several places.

So all that counts is which level has a place above which (`Above`,
`mem_chainRules_iff_above`), and whether the rules are sound can be told from the levels
(`sound_chainRules_iff`).  They break absorption when another level has a place below bottom,
and they disagree when each of two levels has a place above one of the other, that is
when a level comes back after another one.
-/
import Mathlib.Data.List.NodupEquivFin
import Mathlib.Order.MinMax
import Clearance.Proofs.Construction

namespace Clearance

set_option autoImplicit false

/-- Some place of `a` comes before some place of `b`. -/
def Above (levels : List Label) (a b : Label) : Prop :=
  ∃ i j : Nat, i < j ∧ levels[i]? = some a ∧ levels[j]? = some b

/-- Behind bottom there is only bottom. -/
def BottomLast (bottom : Label) (levels : List Label) : Prop :=
  ∀ (i j : Nat) (l : Label), i < j → levels[i]? = some bottom → levels[j]? = some l → l = bottom

/-- Between two places of a label there is no other label. -/
def Contiguous (levels : List Label) : Prop :=
  ∀ (i j k : Nat) (a b : Label), i < j → j < k → levels[i]? = some a → levels[j]? = some b →
    levels[k]? = some a → b = a

variable {bottom a b m : Label} {levels short : List Label} {r : MeetRule}

/-! ## The rules by places -/

theorem mem_chainRules_cons_iff {high : Label} {lower : List Label} :
    r ∈ chainRules (high :: lower) ↔
      (∃ low ∈ high :: lower, r = ⟨high, low, low⟩ ∨ r = ⟨low, high, low⟩) ∨
        r ∈ chainRules lower := by
  have each : ∀ low : Label,
      r ∈ (if high ≠ low then [(⟨high, low, low⟩ : MeetRule), ⟨low, high, low⟩]
        else [⟨high, low, low⟩]) ↔ r = ⟨high, low, low⟩ ∨ r = ⟨low, high, low⟩ := by
    intro low
    by_cases same : high = low
    · simp [same]
    · simp [same]
  rw [chainRules, List.mem_append, List.mem_flatMap]
  simp only [each]

/-- The levels at two places of a chain meet to the one further down. -/
theorem mem_chainRules_iff :
    ⟨a, b, m⟩ ∈ chainRules levels ↔
      ∃ i j : Nat, levels[i]? = some a ∧ levels[j]? = some b ∧ levels[max i j]? = some m := by
  induction levels with
  | nil => simp [chainRules]
  | cons high lower ih =>
      rw [mem_chainRules_cons_iff, ih]
      constructor
      · rintro (⟨low, member, rule⟩ | ⟨i, j, left, right, result⟩)
        · obtain ⟨k, atLow⟩ := List.getElem?_of_mem member
          rcases rule with rule | rule <;> cases rule
          · exact ⟨0, k, rfl, atLow, by rwa [Nat.zero_max]⟩
          · exact ⟨k, 0, atLow, rfl, by rwa [Nat.max_zero]⟩
        · refine ⟨i + 1, j + 1, left, right, ?_⟩
          rwa [Nat.add_max_add_right, List.getElem?_cons_succ]
      · rintro ⟨i, j, left, right, result⟩
        cases i with
        | zero =>
            rw [Nat.zero_max, right] at result
            cases left
            cases result
            exact .inl ⟨b, List.mem_of_getElem? right, .inl rfl⟩
        | succ i =>
            cases j with
            | zero =>
                rw [Nat.max_zero, left] at result
                cases right
                cases result
                exact .inl ⟨a, List.mem_of_getElem? left, .inr rfl⟩
            | succ j =>
                rw [Nat.add_max_add_right] at result
                exact .inr ⟨i, j, left, right, result⟩

/-- The rules of a chain mention its levels only. -/
theorem mem_of_mem_chainRules (rule : r ∈ chainRules levels) :
    r.left ∈ levels ∧ r.right ∈ levels ∧ r.result ∈ levels := by
  obtain ⟨i, j, atI, atJ, atMax⟩ := mem_chainRules_iff.1 rule
  exact ⟨List.mem_of_getElem? atI, List.mem_of_getElem? atJ, List.mem_of_getElem? atMax⟩

/-- Every two levels of a chain have a rule. -/
theorem exists_mem_chainRules (ha : a ∈ levels) (hb : b ∈ levels) :
    ∃ m, ⟨a, b, m⟩ ∈ chainRules levels := by
  obtain ⟨i, atI⟩ := List.getElem?_of_mem ha
  obtain ⟨j, atJ⟩ := List.getElem?_of_mem hb
  obtain ⟨insideI, -⟩ := List.getElem?_eq_some_iff.1 atI
  obtain ⟨insideJ, -⟩ := List.getElem?_eq_some_iff.1 atJ
  have atMax := List.getElem?_eq_getElem (Nat.max_lt.2 ⟨insideI, insideJ⟩)
  exact ⟨_, mem_chainRules_iff.2 ⟨i, j, atI, atJ, atMax⟩⟩

/-- What is left of a chain has no rules of its own. -/
theorem mem_chainRules_of_sublist (sub : short.Sublist levels) (rule : r ∈ chainRules short) :
    r ∈ chainRules levels := by
  obtain ⟨place, same⟩ := List.sublist_iff_exists_orderEmbedding_getElem?_eq.1 sub
  obtain ⟨i, j, atI, atJ, atMax⟩ := mem_chainRules_iff.1 rule
  rw [same] at atI atJ atMax
  rw [place.monotone.map_max] at atMax
  exact mem_chainRules_iff.2 ⟨place i, place j, atI, atJ, atMax⟩

/-! ## Which rules of chains are sound -/

/-- A level meets itself to itself, and one above another meets it to the other. -/
theorem mem_chainRules_iff_above :
    ⟨a, b, m⟩ ∈ chainRules levels ↔
      (a ∈ levels ∧ a = b ∧ b = m) ∨ (Above levels a b ∧ b = m) ∨ (Above levels b a ∧ a = m) := by
  rw [mem_chainRules_iff]
  constructor
  · rintro ⟨i, j, atI, atJ, atMax⟩
    rcases Nat.lt_trichotomy i j with less | same | greater
    · rw [Nat.max_eq_right (Nat.le_of_lt less), atJ] at atMax
      exact .inr (.inl ⟨⟨i, j, less, atI, atJ⟩, Option.some.inj atMax⟩)
    · subst same
      rw [Nat.max_self, atI] at atMax
      rw [atI] at atJ
      cases atJ
      exact .inl ⟨List.mem_of_getElem? atI, rfl, Option.some.inj atMax⟩
    · rw [Nat.max_eq_left (Nat.le_of_lt greater), atI] at atMax
      exact .inr (.inr ⟨⟨j, i, greater, atJ, atI⟩, Option.some.inj atMax⟩)
  · rintro (⟨member, rfl, rfl⟩ | ⟨⟨i, j, less, atI, atJ⟩, rfl⟩ | ⟨⟨j, i, less, atJ, atI⟩, rfl⟩)
    · obtain ⟨i, atI⟩ := List.getElem?_of_mem member
      exact ⟨i, i, atI, atI, by rwa [Nat.max_self]⟩
    · exact ⟨i, j, atI, atJ, by rwa [Nat.max_eq_right (Nat.le_of_lt less)]⟩
    · exact ⟨i, j, atI, atJ, by rwa [Nat.max_eq_left (Nat.le_of_lt less)]⟩

theorem bottomLast_iff : BottomLast bottom levels ↔ ∀ l, Above levels bottom l → l = bottom := by
  constructor
  · rintro last l ⟨i, j, less, atI, atJ⟩
    exact last i j l less atI atJ
  · intro last i j l less atI atJ
    exact last l ⟨i, j, less, atI, atJ⟩

/-- Labels are contiguous when two of them are never above each other. -/
theorem contiguous_iff :
    Contiguous levels ↔ ∀ a b, Above levels a b → Above levels b a → a = b := by
  constructor
  · rintro contiguous a b ⟨i, j, down, atI, atJ⟩ ⟨k, l, up, atK, atL⟩
    -- the lowest of the four places has the other label between it and a higher one
    rcases Nat.lt_trichotomy j l with before | same | after
    · exact (contiguous i j l a b down before atI atJ atL).symm
    · rw [← same, atJ] at atL
      exact (Option.some.inj atL).symm
    · exact contiguous k l j b a up after atK atL atJ
  · intro antisymm i j k a b first second atI atJ atK
    exact antisymm b a ⟨j, k, second, atJ, atK⟩ ⟨i, j, first, atI, atJ⟩

/-- A label that has one place only has nothing between two of them. -/
theorem contiguous_of_nodup (nodup : levels.Nodup) : Contiguous levels := by
  intro i j k a b first second atI atJ atK
  have inside : i < levels.length := (List.getElem?_eq_some_iff.1 atI).1
  have same : i = k := (List.getElem?_inj inside nodup).1 (atI.trans atK.symm)
  omega

theorem absorbing_chainRules_iff :
    (∀ r ∈ chainRules levels, ¬ r.BreaksAbsorption bottom) ↔ BottomLast bottom levels := by
  rw [bottomLast_iff]
  constructor
  · intro respect l above
    by_contra proper
    have rule : ⟨bottom, l, l⟩ ∈ chainRules levels :=
      mem_chainRules_iff_above.2 (.inr (.inl ⟨above, rfl⟩))
    exact respect _ rule ⟨.inl rfl, proper⟩
  · rintro last ⟨a, b, m⟩ rule ⟨operand, proper⟩
    apply proper
    rcases mem_chainRules_iff_above.1 rule with ⟨-, rfl, rfl⟩ | ⟨above, rfl⟩ | ⟨above, rfl⟩
    · exact operand.elim id id
    · rcases operand with rfl | right
      · exact last b above
      · exact right
    · rcases operand with left | rfl
      · exact left
      · exact last a above

theorem agreeing_chainRules_iff : Builder.Agreeing (chainRules levels) ↔ Contiguous levels := by
  rw [contiguous_iff]
  constructor
  · intro agree a b down up
    have lower : ⟨a, b, b⟩ ∈ chainRules levels :=
      mem_chainRules_iff_above.2 (.inr (.inl ⟨down, rfl⟩))
    have upper : ⟨a, b, a⟩ ∈ chainRules levels :=
      mem_chainRules_iff_above.2 (.inr (.inr ⟨up, rfl⟩))
    exact agree _ upper _ lower ⟨rfl, rfl⟩
  · rintro antisymm ⟨a, b, m⟩ first ⟨c, d, n⟩ second ⟨left, right⟩
    cases left
    cases right
    show m = n
    have one := mem_chainRules_iff_above.1 first
    have other := mem_chainRules_iff_above.1 second
    -- the results could only differ where each of the operands is above the other
    have same := antisymm a b
    grind

theorem sound_chainRules_iff :
    Builder.Sound bottom (chainRules levels) ↔ BottomLast bottom levels ∧ Contiguous levels :=
  and_congr absorbing_chainRules_iff agreeing_chainRules_iff

end Clearance

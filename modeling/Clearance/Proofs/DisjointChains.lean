/-
# Clearance.Proofs.DisjointChains -- total orders side by side in one table

A chain orders its levels totally, from the highest to the lowest.  A table may
hold several chains, and where no label stands twice in them, each keeps to itself
(`RankedBy`).  Everything the table answers can then be read off the chains:

* `getElem?_meet`: the levels at two places of a chain meet to the one further down;
* `meet_mem_iff`: a meet is of a chain exactly when both operands are, and so is a
  fold (`meetAll_mem_iff`).  This decides what is permitted (`permits_iff`), and it
  gives associativity, because both ways to meet three labels are of the same chains;
* `size_eq`: two labels of one chain make one rule, so a chain of `n` levels makes
  the square of `n`.

`exists_rankedBy` builds such a table from its chains.
-/
import Mathlib.Algebra.GroupWithZero.Nat
import Mathlib.Data.List.Nodup
import Mathlib.Data.List.Pairwise
import Mathlib.Data.List.ProdSigma
import Clearance.Proofs.ChainRules
import Clearance.Proofs.Modes
import Clearance.Proofs.Observation
import Clearance.Proofs.Meaning

namespace Clearance

set_option autoImplicit false

/-! ## Chains without a label in common -/

/-- Of chains in which no label stands twice, one at most has a given label. -/
theorem chain_unique {chains : List (List Label)} (distinct : chains.flatten.Nodup)
    {levels others : List Label} (hl : levels ∈ chains) (ho : others ∈ chains) {l : Label}
    (left : l ∈ levels) (right : l ∈ others) : levels = others := by
  by_contra differ
  have : Std.Symm (List.Disjoint (α := Label)) := ⟨fun _ _ => List.Disjoint.symm⟩
  have apart : levels.Disjoint others := (List.nodup_flatten.1 distinct).2.forall hl ho differ
  exact apart left right

/-- In such chains, two labels have one rule at most. -/
theorem result_unique {chains : List (List Label)} (distinct : chains.flatten.Nodup)
    {e r : MeetRule} (he : e ∈ chains.flatMap chainRules) (hr : r ∈ chains.flatMap chainRules) :
    e.Agrees r := by
  rintro ⟨left, right⟩
  obtain ⟨levels, hl, he⟩ := List.mem_flatMap.1 he
  obtain ⟨others, ho, hr⟩ := List.mem_flatMap.1 hr
  have member : e.left ∈ others := left ▸ (mem_of_mem_chainRules hr).1
  have same : levels = others :=
    chain_unique distinct hl ho (mem_of_mem_chainRules he).1 member
  subst same
  have nodup : levels.Nodup := (List.nodup_flatten.1 distinct).1 levels hl
  exact agreeing_chainRules_iff.2 (contiguous_of_nodup nodup) e he r hr ⟨left, right⟩

namespace MeetTable

/-- The rules of the table are those of the chains.  No label stands twice in them,
and bottom does not stand in them at all. -/
structure RankedBy (t : MeetTable) (chains : List (List Label)) : Prop where
  distinct : chains.flatten.Nodup
  proper : t.bottom ∉ chains.flatten
  rules : ∀ r, r ∈ t.rules ↔ r ∈ chains.flatMap chainRules

namespace RankedBy

variable {t : MeetTable} {chains : List (List Label)}

section Chain

variable {levels : List Label} {a b : Label}

theorem ne_bottom_of_mem (ranked : t.RankedBy chains) (chain : levels ∈ chains)
    (member : a ∈ levels) : a ≠ t.bottom := by
  rintro rfl
  exact ranked.proper (List.mem_flatten.2 ⟨levels, chain, member⟩)

/-- The levels at two places of a chain meet to the one further down. -/
theorem getElem?_meet (ranked : t.RankedBy chains) (chain : levels ∈ chains) {i j : Nat}
    (atI : levels[i]? = some a) (atJ : levels[j]? = some b) :
    levels[max i j]? = some (t.meet a b) := by
  obtain ⟨insideI, -⟩ := List.getElem?_eq_some_iff.1 atI
  obtain ⟨insideJ, -⟩ := List.getElem?_eq_some_iff.1 atJ
  have inside : max i j < levels.length := Nat.max_lt.2 ⟨insideI, insideJ⟩
  have atMax : levels[max i j]? = some levels[max i j] := List.getElem?_eq_getElem inside
  have rule : ⟨a, b, levels[max i j]⟩ ∈ chainRules levels :=
    mem_chainRules_iff.2 ⟨i, j, atI, atJ, atMax⟩
  have stored := (ranked.rules _).2 (List.mem_flatMap.2 ⟨levels, chain, rule⟩)
  rw [atMax, t.meet_of_mem stored]

/-- Labels that meet above bottom are of one chain. -/
theorem shared_of_meet_ne_bottom (ranked : t.RankedBy chains) (above : t.meet a b ≠ t.bottom) :
    ∃ levels ∈ chains, a ∈ levels ∧ b ∈ levels := by
  have stored : ⟨a, b, t.meet a b⟩ ∈ t.rules := t.rule_of_meet_ne_bottom above
  obtain ⟨levels, chain, rule⟩ := List.mem_flatMap.1 ((ranked.rules _).1 stored)
  obtain ⟨left, right, -⟩ := mem_of_mem_chainRules rule
  exact ⟨levels, chain, left, right⟩

/-- A meet is of a chain exactly when both operands are. -/
theorem meet_mem_iff (ranked : t.RankedBy chains) (chain : levels ∈ chains) :
    t.meet a b ∈ levels ↔ a ∈ levels ∧ b ∈ levels := by
  have closed : ∀ others ∈ chains, a ∈ others → b ∈ others → t.meet a b ∈ others := by
    intro others other left right
    obtain ⟨i, atI⟩ := List.getElem?_of_mem left
    obtain ⟨j, atJ⟩ := List.getElem?_of_mem right
    exact List.mem_of_getElem? (ranked.getElem?_meet other atI atJ)
  constructor
  · intro member
    obtain ⟨others, other, left, right⟩ :=
      ranked.shared_of_meet_ne_bottom (ranked.ne_bottom_of_mem chain member)
    rw [chain_unique ranked.distinct chain other member (closed others other left right)]
    exact ⟨left, right⟩
  · rintro ⟨left, right⟩
    exact closed levels chain left right

theorem foldl_mem_iff (ranked : t.RankedBy chains) (chain : levels ∈ chains) (ls : List Label) :
    ls.foldl t.meet a ∈ levels ↔ a ∈ levels ∧ ∀ l ∈ ls, l ∈ levels := by
  induction ls generalizing a with
  | nil => simp
  | cons l ls ih =>
      rw [List.foldl_cons, ih, ranked.meet_mem_iff chain, List.forall_mem_cons, and_assoc]

theorem meetAll_mem_iff (ranked : t.RankedBy chains) (chain : levels ∈ chains) {ls : List Label}
    (ne : ls ≠ []) : t.meetAll ls ∈ levels ↔ ∀ l ∈ ls, l ∈ levels := by
  cases ls with
  | nil => exact absurd rfl ne
  | cons l ls => exact (ranked.foldl_mem_iff chain ls).trans List.forall_mem_cons.symm

end Chain

/-! ## Laws -/

/-- Above bottom the table knows the levels of its chains. -/
theorem mem_domain_iff (ranked : t.RankedBy chains) {l : Label} :
    l ∈ t.domain ↔ l = t.bottom ∨ ∃ levels ∈ chains, l ∈ levels := by
  rw [t.mem_domain_iff]
  refine or_congr_right ⟨?_, ?_⟩
  · rintro ⟨r, stored, mentioned⟩
    obtain ⟨levels, chain, rule⟩ := List.mem_flatMap.1 ((ranked.rules r).1 stored)
    obtain ⟨left, right, result⟩ := mem_of_mem_chainRules rule
    refine ⟨levels, chain, ?_⟩
    simp only [MeetRule.labels, List.mem_cons, List.not_mem_nil, or_false] at mentioned
    rcases mentioned with rfl | rfl | rfl
    · exact left
    · exact right
    · exact result
  · rintro ⟨levels, chain, member⟩
    obtain ⟨m, rule⟩ := exists_mem_chainRules member member
    have stored := (ranked.rules _).2 (List.mem_flatMap.2 ⟨levels, chain, rule⟩)
    exact ⟨_, stored, MeetRule.left_mem_labels _⟩

/-- What is of the domain and of no chain is bottom. -/
theorem eq_bottom_of_not_mem (ranked : t.RankedBy chains) {l : Label} (known : l ∈ t.domain)
    (outside : ∀ levels ∈ chains, l ∉ levels) : l = t.bottom := by
  rcases ranked.mem_domain_iff.1 known with atBottom | ⟨levels, chain, member⟩
  · exact atBottom
  · exact absurd member (outside levels chain)

/-- Labels of the domain are the same if they are wherever one of them is of a chain. -/
theorem eq_of_eq_in_chain (ranked : t.RankedBy chains) {l m : Label} (hl : l ∈ t.domain)
    (hm : m ∈ t.domain) (same : ∀ levels ∈ chains, l ∈ levels ∨ m ∈ levels → l = m) : l = m := by
  by_contra differ
  have outside : ∀ levels ∈ chains, l ∉ levels ∧ m ∉ levels := fun levels chain =>
    not_or.1 fun either => differ (same levels chain either)
  refine differ ((ranked.eq_bottom_of_not_mem hl ?_).trans (ranked.eq_bottom_of_not_mem hm ?_).symm)
  · exact fun levels chain => (outside levels chain).1
  · exact fun levels chain => (outside levels chain).2

theorem meet_comm (ranked : t.RankedBy chains) (a b : Label) : t.meet a b = t.meet b a := by
  refine ranked.eq_of_eq_in_chain (t.meet_mem_domain a b) (t.meet_mem_domain b a)
    fun levels chain either => ?_
  rw [ranked.meet_mem_iff chain, ranked.meet_mem_iff chain, and_comm, or_self] at either
  obtain ⟨j, atJ⟩ := List.getElem?_of_mem either.1
  obtain ⟨i, atI⟩ := List.getElem?_of_mem either.2
  have forth := ranked.getElem?_meet chain atI atJ
  have back := ranked.getElem?_meet chain atJ atI
  rw [Nat.max_comm, forth] at back
  exact Option.some.inj back

theorem meet_assoc (ranked : t.RankedBy chains) (a b c : Label) :
    t.meet (t.meet a b) c = t.meet a (t.meet b c) := by
  refine ranked.eq_of_eq_in_chain (t.meet_mem_domain _ c) (t.meet_mem_domain a _)
    fun levels chain either => ?_
  simp only [ranked.meet_mem_iff chain, and_assoc, or_self] at either
  obtain ⟨i, atI⟩ := List.getElem?_of_mem either.1
  obtain ⟨j, atJ⟩ := List.getElem?_of_mem either.2.1
  obtain ⟨k, atK⟩ := List.getElem?_of_mem either.2.2
  have left := ranked.getElem?_meet chain (ranked.getElem?_meet chain atI atJ) atK
  have right := ranked.getElem?_meet chain atI (ranked.getElem?_meet chain atJ atK)
  rw [Nat.max_assoc, right] at left
  exact (Option.some.inj left).symm

theorem meet_self (ranked : t.RankedBy chains) {l : Label} (known : l ∈ t.domain) :
    t.meet l l = l := by
  rcases ranked.mem_domain_iff.1 known with rfl | ⟨levels, chain, member⟩
  · exact t.meet_bottom_left _
  · obtain ⟨i, atI⟩ := List.getElem?_of_mem member
    have self := ranked.getElem?_meet chain atI atI
    rw [Nat.max_self, atI] at self
    exact (Option.some.inj self).symm

theorem keeps (ranked : t.RankedBy chains) (law : Law) : t.Keeps law := by
  cases law with
  | idempotence => exact t.keeps_idempotence_iff.2 fun _ => ranked.meet_self
  | commutativity => exact t.keeps_commutativity_iff.2 ranked.meet_comm
  | associativity => exact t.keeps_associativity_iff.2 ranked.meet_assoc

/-! ## Size -/

/-- There is one rule for each pair of labels of one chain. -/
theorem rules_perm (ranked : t.RankedBy chains) :
    t.rules.Perm (chains.flatMap fun levels =>
      (levels ×ˢ levels).map fun p => ⟨p.1, p.2, t.meet p.1 p.2⟩) := by
  obtain ⟨nodups, disjoint⟩ := List.nodup_flatten.1 ranked.distinct
  refine (List.perm_ext_iff_of_nodup (Ordered.nodup_of_ascending t.ascending) ?_).2 fun r => ?_
  · refine List.nodup_flatMap.2 ⟨fun levels chain => ?_, disjoint.imp ?_⟩
    · refine List.Nodup.map ?_ ((nodups levels chain).product (nodups levels chain))
      rintro ⟨a, b⟩ ⟨c, d⟩ same
      cases same
      rfl
    · intro levels others apart r left right
      obtain ⟨⟨a, b⟩, hp, rfl⟩ := List.mem_map.1 left
      obtain ⟨⟨c, d⟩, hq, same⟩ := List.mem_map.1 right
      cases same
      exact apart (List.mem_product.1 hp).1 (List.mem_product.1 hq).1
  · rw [mem_rules_iff, List.mem_flatMap]
    constructor
    · rintro ⟨meets, above⟩
      obtain ⟨levels, chain, left, right⟩ := ranked.shared_of_meet_ne_bottom (meets ▸ above)
      have pair : (r.left, r.right) ∈ levels ×ˢ levels := List.mem_product.2 ⟨left, right⟩
      refine ⟨levels, chain, List.mem_map.2 ⟨_, pair, ?_⟩⟩
      rw [meets]
    · rintro ⟨levels, chain, member⟩
      obtain ⟨⟨a, b⟩, hp, rfl⟩ := List.mem_map.1 member
      have inside : t.meet a b ∈ levels := (ranked.meet_mem_iff chain).2 (List.mem_product.1 hp)
      exact ⟨rfl, ranked.ne_bottom_of_mem chain inside⟩

theorem size_eq (ranked : t.RankedBy chains) :
    t.size = (chains.map fun levels => levels.length ^ 2).sum := by
  rw [size, ranked.rules_perm.length_eq, List.length_flatMap]
  simp only [List.length_map, List.length_product, Nat.pow_two]

/-! ## Decisions -/

/-- Two labels or more are permitted when one chain has them all. -/
theorem permits_iff (ranked : t.RankedBy chains) {ls : List Label} (two : 2 ≤ ls.length) :
    t.permits ls = true ↔ ∃ levels ∈ chains, ∀ l ∈ ls, l ∈ levels := by
  have ne : ls ≠ [] := List.ne_nil_of_length_pos (Nat.lt_of_lt_of_le Nat.zero_lt_two two)
  rw [MeetTable.permits_iff]
  constructor
  · intro above
    have known := t.meetAll_mem_domain_of_two two
    obtain ⟨levels, chain, member⟩ := (ranked.mem_domain_iff.1 known).resolve_left above
    exact ⟨levels, chain, (ranked.meetAll_mem_iff chain ne).1 member⟩
  · rintro ⟨levels, chain, all⟩
    exact ranked.ne_bottom_of_mem chain ((ranked.meetAll_mem_iff chain ne).2 all)

theorem permits_labels_iff (ranked : t.RankedBy chains) (p : Profile) :
    t.permits p.labels = true ↔ ∃ levels ∈ chains, ∀ l ∈ p.labels, l ∈ levels :=
  ranked.permits_iff (by rw [p.length_labels]; omega)

theorem independent_allow_iff (ranked : t.RankedBy chains) (c : Context) (request : Profile) :
    t.evaluate c request .independent = .allow ↔
      (∃ levels ∈ chains, ∀ l ∈ c.labels, l ∈ levels) ∧
        ∃ levels ∈ chains, ∀ l ∈ request.labels, l ∈ levels := by
  rw [evaluate_independent_eq_allow_iff, ← ranked.permits_labels_iff]
  exact and_congr_left fun _ => ranked.permits_labels_iff c.profile

/-- The five meets are of a chain exactly when all ten labels are. -/
theorem pairwise_allow_iff (ranked : t.RankedBy chains) (c : Context) (request : Profile) :
    t.evaluate c request .pairwise = .allow ↔
      ∃ levels ∈ chains, ∀ l ∈ c.labels ++ request.labels, l ∈ levels := by
  rw [evaluate_pairwise_eq_allow_iff_permits, ranked.permits_iff (by simp [Dimension.all])]
  refine exists_congr fun levels => and_congr_right fun chain => ?_
  simp only [List.forall_mem_map, meetOn, ranked.meet_mem_iff chain, forall_and,
    List.forall_mem_append, Context.labels, Context.get, Profile.labels]

end RankedBy

end MeetTable

namespace Builder

open MeetTable

/-- Chains in which no label stands twice, and bottom not at all, build a table. -/
theorem exists_rankedBy {chains : List (List Label)} (distinct : chains.flatten.Nodup) {b : Builder}
    (ne : b.bottom.text ≠ "") (proper : b.bottom ∉ chains.flatten)
    (rules : b.rules = chains.flatMap chainRules) :
    ∃ t, b.build = .ok t ∧ t.RankedBy chains := by
  have mentions : ∀ r ∈ b.rules, r.left ∈ chains.flatten ∧ r.right ∈ chains.flatten ∧
      r.result ∈ chains.flatten := by
    intro r member
    rw [rules] at member
    obtain ⟨levels, chain, rule⟩ := List.mem_flatMap.1 member
    obtain ⟨left, right, result⟩ := mem_of_mem_chainRules rule
    have inside : ∀ l ∈ levels, l ∈ chains.flatten := fun l there =>
      List.mem_flatten.2 ⟨levels, chain, there⟩
    exact ⟨inside _ left, inside _ right, inside _ result⟩
  have sound : Sound b.bottom b.rules := by
    constructor
    · rintro r member ⟨left | right, -⟩
      · exact proper (left ▸ (mentions r member).1)
      · exact proper (right ▸ (mentions r member).2.1)
    · rw [rules]
      exact fun e he r hr => result_unique distinct he hr
  obtain ⟨t, built⟩ := b.exists_build_eq_ok_iff.2 ⟨ne, sound⟩
  refine ⟨t, built, distinct, ?_, fun r => ?_⟩
  · rwa [bottom_of_build built]
  · rw [mem_rules_iff_of_build built, ← rules]
    refine and_iff_left_of_imp fun member atBottom => proper ?_
    exact atBottom ▸ (mentions r member).2.2

/-- **Chains that share no label.**  Where no label stands twice in some chains, and
the default bottom not at all, defining them builds a table.  It keeps the laws, has
one rule for each two labels of a chain, meets these to the one further down, and
meets all else to bottom.  An independent check allows when the context is of one
chain and the request of one, a pairwise check when both are of the same; over a
single chain this is no difference. -/
theorem disjoint_chains_decide {chains : List (List Label)} (distinct : chains.flatten.Nodup)
    (proper : Label.defaultBottom ∉ chains.flatten) :
    ∃ t, (ofSteps (chains.map .chain)).build = .ok t ∧ t.bottom = .defaultBottom ∧
      t.lawBreaks = [] ∧
      t.size = (chains.map fun levels => levels.length ^ 2).sum ∧
      (∀ levels ∈ chains, ∀ (i j : Nat) (a b : Label), levels[i]? = some a → levels[j]? = some b →
        levels[max i j]? = some (t.meet a b)) ∧
      (∀ a b, (∀ levels ∈ chains, ¬ (a ∈ levels ∧ b ∈ levels)) → t.meet a b = t.bottom) ∧
      ∀ c request,
        (t.evaluate c request .independent = .allow ↔
          (∃ levels ∈ chains, ∀ l ∈ c.labels, l ∈ levels) ∧
            ∃ levels ∈ chains, ∀ l ∈ request.labels, l ∈ levels) ∧
        (t.evaluate c request .pairwise = .allow ↔
          ∃ levels ∈ chains, ∀ l ∈ c.labels ++ request.labels, l ∈ levels) ∧
        (chains.length = 1 →
          (t.evaluate c request .independent = .allow ↔
            t.evaluate c request .pairwise = .allow)) := by
  have noBottom : ∀ s ∈ chains.map BuildStep.chain, s.bottom? = none :=
    List.forall_mem_map.2 fun _ _ => rfl
  have bottom : (ofSteps (chains.map .chain)).bottom = .defaultBottom :=
    (bottom_ofSteps _).trans (BuildStep.lastBottom_append [] noBottom)
  have rules : (ofSteps (chains.map .chain)).rules = chains.flatMap chainRules := by
    rw [rules_ofSteps, BuildStep.directedRules, List.flatMap_map]
    rfl
  obtain ⟨t, built, ranked⟩ := exists_rankedBy distinct (by rw [bottom]; decide)
    (by rwa [bottom]) rules
  refine ⟨t, built, (bottom_of_build built).trans bottom,
    t.lawBreaks_eq_nil_iff_keeps.2 ranked.keeps, ranked.size_eq, ?_, ?_, fun c request => ?_⟩
  · exact fun levels chain i j a b atI atJ => ranked.getElem?_meet chain atI atJ
  · intro a b outside
    refine ranked.eq_bottom_of_not_mem (t.meet_mem_domain a b) fun levels chain member => ?_
    exact outside levels chain ((ranked.meet_mem_iff chain).1 member)
  · refine ⟨ranked.independent_allow_iff c request, ranked.pairwise_allow_iff c request, ?_⟩
    intro single
    obtain ⟨levels, rfl⟩ := List.length_eq_one_iff.1 single
    rw [ranked.independent_allow_iff, ranked.pairwise_allow_iff]
    simp only [List.mem_singleton, exists_eq_left, List.forall_mem_append]

/-- A chain that ends in the empty label, and one of a single level. -/
def tiers : List (List Label) :=
  [[⟨"ROOT"⟩, ⟨"TRUSTED"⟩, ⟨""⟩], [⟨"AUDIT"⟩]]

/-- Meets along a chain and across, and a request from another chain than its
context. -/
theorem tiers_decide :
    (tiers.flatten.Nodup ∧ Label.defaultBottom ∉ tiers.flatten) ∧
    ∃ t, (ofSteps (tiers.map .chain)).build = .ok t ∧ t.lawBreaks = [] ∧ t.size = 10 ∧
      t.meet ⟨""⟩ ⟨"ROOT"⟩ = ⟨""⟩ ∧ t.meet ⟨"ROOT"⟩ ⟨"AUDIT"⟩ = t.bottom ∧
      t.evaluate ⟨(Profile.uniform ⟨"ROOT"⟩).set .runtime ⟨""⟩⟩ (.uniform ⟨"AUDIT"⟩)
        .independent = .allow ∧
      t.evaluate ⟨(Profile.uniform ⟨"ROOT"⟩).set .runtime ⟨""⟩⟩ (.uniform ⟨"TRUSTED"⟩)
        .pairwise = .allow ∧
      t.evaluate ⟨(Profile.uniform ⟨"ROOT"⟩).set .runtime ⟨""⟩⟩ (.uniform ⟨"AUDIT"⟩)
        .pairwise ≠ .allow := by
  have distinct : tiers.flatten.Nodup := by decide
  have proper : Label.defaultBottom ∉ tiers.flatten := by decide
  obtain ⟨t, built, -, lawful, size, along, across, decisions⟩ :=
    disjoint_chains_decide distinct proper
  refine ⟨⟨distinct, proper⟩, t, built, lawful, size, ?_, across _ _ (by decide), ?_, ?_, ?_⟩
  · exact (Option.some.inj (along _ (List.mem_cons_self ..) 2 0 _ _ rfl rfl)).symm
  · exact (decisions _ _).1.2 (by decide)
  · exact (decisions _ _).2.1.2 (by decide)
  · rw [Ne, (decisions _ _).2.1]
    decide

end Builder

end Clearance

/-
# Clearance.Proofs.Branches -- tables that share only bottom can be put together

Two tables with one bottom that share no other label are `Apart`.  Their rules
together make a table again, and in it neither hears of the other: the labels of
a meet above bottom are known to one of the two, and to it alone.

What a table answers about the labels of one side is what that side answers, so
the argument needs only one side at a time.  `t` is a branch of `u` when `u` has
the rules of `t` and no further rule that mentions a label of `t` (`HasBranch`).

* `meet_of_branch`: the meets are those of the branch as soon as an operand or
  the result is of its domain;
* `meetAll_of_branch`: so are the folds that start in the domain, and they stay
  there;
* `mem_lawBreaks_iff_of_branch`: so are the laws broken at a label of the domain.

Where `v` joins `t` and `u` both are branches (`Joins.left`, `Joins.right`), and
its domain holds nothing else (`Joins.mem_domain`).  A fold that starts on one
side and crosses to the other has met to bottom there, and stays at bottom.
-/
import Clearance.Proofs.Extension
import Clearance.Proofs.Modes

namespace Clearance

set_option autoImplicit false

/-- The first label at which a law was tried and found broken. -/
def LawBreak.first : LawBreak → Label
  | .notIdempotent a _ => a
  | .notCommutative a .. => a
  | .notAssociative a .. => a

namespace MeetTable

variable {t u v : MeetTable}

theorem first_mem_domain {b : LawBreak} (reported : b ∈ t.lawBreaks) : b.first ∈ t.domain := by
  cases b with
  | notIdempotent a m => exact (t.notIdempotent_mem_lawBreaks_iff.1 reported).1.1
  | notCommutative a b ab ba =>
      obtain ⟨-, rfl, rfl, breaks⟩ := t.notCommutative_mem_lawBreaks_iff.1 reported
      exact (t.knows_of_not_commutative breaks).1.1
  | notAssociative a b c left right =>
      obtain ⟨rfl, rfl, breaks⟩ := t.notAssociative_mem_lawBreaks_iff.1 reported
      exact (t.knows_of_not_associative breaks).1.1

/-! ## One branch -/

/-- `u` has the rules of `t`, and no further rule that mentions a label of `t`. -/
structure HasBranch (u t : MeetTable) : Prop extends u.Extends t where
  isolated : ∀ r ∈ u.rules, ∀ l ∈ r.labels, l ∈ t.domain → r ∈ t.rules

theorem mem_domain_of_branch (branch : u.HasBranch t) {l : Label} (member : l ∈ t.domain) :
    l ∈ u.domain := by
  rcases t.mem_domain_iff.1 member with rfl | ⟨r, stored, mentioned⟩
  · rw [← branch.bottom]
    exact u.bottom_mem_domain
  · exact (u.knows_of_mem_labels (branch.rules r stored) mentioned).1

/-- A meet that involves a label of the branch is a meet of the branch. -/
theorem meet_of_branch (branch : u.HasBranch t) {a b : Label}
    (involved : a ∈ t.domain ∨ b ∈ t.domain ∨ u.meet a b ∈ t.domain) :
    u.meet a b = t.meet a b := by
  by_cases atBottom : u.meet a b = u.bottom
  · by_contra differs
    have above : t.meet a b ≠ t.bottom := by
      intro same
      exact differs (by rw [atBottom, same, branch.bottom])
    exact differs (meet_of_extends branch.toExtends above)
  · have stored : ⟨a, b, u.meet a b⟩ ∈ u.rules := u.rule_of_meet_ne_bottom atBottom
    have own : ⟨a, b, u.meet a b⟩ ∈ t.rules := by
      rcases involved with left | right | result
      · exact branch.isolated _ stored a (MeetRule.left_mem_labels _) left
      · exact branch.isolated _ stored b (MeetRule.right_mem_labels _) right
      · exact branch.isolated _ stored _ (MeetRule.result_mem_labels _) result
    exact (t.meet_of_mem own).symm

/-- A label of the branch meets a result to the same label, whichever of the two
tables the result is of. -/
theorem meet_meet_of_branch (branch : u.HasBranch t) {a : Label} (member : a ∈ t.domain)
    (b c : Label) : u.meet a (u.meet b c) = t.meet a (t.meet b c) := by
  rw [meet_of_branch branch (.inl member)]
  by_cases inside : u.meet b c ∈ t.domain
  · rw [meet_of_branch branch (.inr (.inr inside))]
  · have atBottom : t.meet b c = t.bottom := by
      by_contra above
      rw [meet_of_extends branch.toExtends above] at inside
      exact inside (t.meet_mem_domain b c)
    rw [t.meet_eq_bottom_of_right_unknown a inside, atBottom, meet_bottom_right]

theorem foldl_of_branch (branch : u.HasBranch t) {start : Label} (member : start ∈ t.domain)
    (ls : List Label) : ls.foldl u.meet start = ls.foldl t.meet start := by
  induction ls generalizing start with
  | nil => rfl
  | cons l ls ih =>
      rw [List.foldl_cons, List.foldl_cons, meet_of_branch branch (.inl member)]
      exact ih (t.meet_mem_domain start l)

theorem meetAll_of_branch (branch : u.HasBranch t) {l : Label} (member : l ∈ t.domain)
    (ls : List Label) : u.meetAll (l :: ls) = t.meetAll (l :: ls) :=
  foldl_of_branch branch member ls

theorem permits_of_branch (branch : u.HasBranch t) {l : Label} (member : l ∈ t.domain)
    (ls : List Label) : u.permits (l :: ls) = t.permits (l :: ls) := by
  rw [permits, permits, meetAll_of_branch branch member, branch.bottom]

/-- A pairwise check whose first meet is of the branch is a check of the branch. -/
theorem pairwise_allow_of_branch (branch : u.HasBranch t) {c : Context} {request : Profile}
    (member : u.meetOn c request .host ∈ t.domain)
    (allowed : u.evaluate c request .pairwise = .allow) :
    t.evaluate c request .pairwise = .allow := by
  rw [evaluate_pairwise_eq_allow_iff_permits] at allowed ⊢
  have folded : u.permits (Dimension.all.map (u.meetOn c request)) =
      t.permits (Dimension.all.map (u.meetOn c request)) := permits_of_branch branch member _
  rw [folded] at allowed
  -- the five meets fold above bottom in the branch, so they all are of its domain
  have known := t.knows_of_meetAll_ne_bottom (by simp [Dimension.all]) ((t.permits_iff _).1 allowed)
  have same : u.meetOn c request = t.meetOn c request := by
    funext d
    have inside := (known _ (List.mem_map_of_mem (Dimension.mem_all d))).1
    exact meet_of_branch branch (.inr (.inr inside))
  rwa [same] at allowed

/-- At a label of the branch the same breaks are reported. -/
theorem mem_lawBreaks_iff_of_branch (branch : u.HasBranch t) {b : LawBreak}
    (member : b.first ∈ t.domain) : b ∈ u.lawBreaks ↔ b ∈ t.lawBreaks := by
  cases b with
  | notIdempotent a m =>
      have inside : a ∈ t.domain := member
      have known : u.Knows a ↔ t.Knows a := by
        rw [Knows, Knows, branch.bottom]
        exact and_congr_left fun _ => ⟨fun _ => inside, mem_domain_of_branch branch⟩
      rw [notIdempotent_mem_lawBreaks_iff, notIdempotent_mem_lawBreaks_iff, known,
        meet_of_branch branch (.inl inside)]
  | notCommutative a b ab ba =>
      have inside : a ∈ t.domain := member
      rw [notCommutative_mem_lawBreaks_iff, notCommutative_mem_lawBreaks_iff,
        meet_of_branch branch (.inl inside), meet_of_branch branch (.inr (.inl inside))]
  | notAssociative a b c left right =>
      have inside : a ∈ t.domain := member
      rw [notAssociative_mem_lawBreaks_iff, notAssociative_mem_lawBreaks_iff,
        meet_meet_of_branch branch inside, meet_of_branch branch (.inl inside),
        meet_of_branch branch (.inl (t.meet_mem_domain a b))]

/-! ## Two branches -/

/-- The tables have one bottom and share no other label. -/
structure Apart (t u : MeetTable) : Prop where
  bottom : t.bottom = u.bottom
  domain : ∀ l ∈ t.domain, l ∈ u.domain → l = t.bottom

theorem Apart.symm (apart : Apart t u) : Apart u t where
  bottom := apart.bottom.symm
  domain l right left := (apart.domain l left right).trans apart.bottom

/-- No rule of the one mentions a label of the other. -/
theorem Apart.not_mem_domain (apart : Apart t u) {r : MeetRule} (stored : r ∈ u.rules) {l : Label}
    (mentioned : l ∈ r.labels) : l ∉ t.domain := by
  intro member
  obtain ⟨known, above⟩ := u.knows_of_mem_labels stored mentioned
  rw [← apart.bottom] at above
  exact above (apart.domain l member known)

/-- `v` has the rules of two tables that are apart, and no others. -/
structure Joins (v t u : MeetTable) : Prop where
  apart : Apart t u
  bottom : v.bottom = t.bottom
  rules : ∀ r, r ∈ v.rules ↔ r ∈ t.rules ∨ r ∈ u.rules

namespace Joins

theorem symm (joins : v.Joins t u) : v.Joins u t where
  apart := joins.apart.symm
  bottom := joins.bottom.trans joins.apart.bottom
  rules r := (joins.rules r).trans or_comm

theorem left (joins : v.Joins t u) : v.HasBranch t where
  bottom := joins.bottom
  rules r stored := (joins.rules r).2 (.inl stored)
  isolated r stored _ mentioned member :=
    ((joins.rules r).1 stored).resolve_right fun other =>
      joins.apart.not_mem_domain other mentioned member

theorem right (joins : v.Joins t u) : v.HasBranch u :=
  joins.symm.left

theorem mem_domain (joins : v.Joins t u) {l : Label} (member : l ∈ v.domain) :
    l ∈ t.domain ∨ l ∈ u.domain := by
  rcases v.mem_domain_iff.1 member with rfl | ⟨r, stored, mentioned⟩
  · rw [joins.bottom]
    exact .inl t.bottom_mem_domain
  · rcases (joins.rules r).1 stored with stored | stored
    · exact .inl (t.knows_of_mem_labels stored mentioned).1
    · exact .inr (u.knows_of_mem_labels stored mentioned).1

/-- Labels that meet to bottom on both sides meet to bottom. -/
theorem meet_eq_bottom (joins : v.Joins t u) {a b : Label} (left : t.meet a b = t.bottom)
    (right : u.meet a b = u.bottom) : v.meet a b = v.bottom := by
  by_contra above
  rcases joins.mem_domain (v.knows_of_meet_ne_bottom above).1.1 with member | member
  · rw [meet_of_branch joins.left (.inl member), left, joins.bottom] at above
    exact above rfl
  · rw [meet_of_branch joins.right (.inl member), right, joins.right.bottom] at above
    exact above rfl

theorem permits_iff (joins : v.Joins t u) (ls : List Label) :
    v.permits ls = true ↔ t.permits ls = true ∨ u.permits ls = true := by
  constructor
  · intro permitted
    have above := (v.permits_iff ls).1 permitted
    match ls with
    | [] => exact absurd v.meetAll_nil above
    | [l] =>
        refine .inl ((t.permits_iff [l]).2 ?_)
        rwa [joins.bottom] at above
    | l :: m :: rest =>
        have known := v.knows_of_meetAll_ne_bottom (by simp) above l (List.mem_cons_self ..)
        rcases joins.mem_domain known.1 with member | member
        · rw [permits_of_branch joins.left member] at permitted
          exact .inl permitted
        · rw [permits_of_branch joins.right member] at permitted
          exact .inr permitted
  · rintro (permitted | permitted)
    · exact permits_of_extends joins.left.toExtends permitted
    · exact permits_of_extends joins.right.toExtends permitted

theorem mem_lawBreaks_iff (joins : v.Joins t u) (b : LawBreak) :
    b ∈ v.lawBreaks ↔ b ∈ t.lawBreaks ∨ b ∈ u.lawBreaks := by
  constructor
  · intro reported
    rcases joins.mem_domain (first_mem_domain reported) with member | member
    · exact .inl ((mem_lawBreaks_iff_of_branch joins.left member).1 reported)
    · exact .inr ((mem_lawBreaks_iff_of_branch joins.right member).1 reported)
  · rintro (reported | reported)
    · exact (mem_lawBreaks_iff_of_branch joins.left (first_mem_domain reported)).2 reported
    · exact (mem_lawBreaks_iff_of_branch joins.right (first_mem_domain reported)).2 reported

theorem pairwise_allow_iff (joins : v.Joins t u) (c : Context) (request : Profile) :
    v.evaluate c request .pairwise = .allow ↔
      t.evaluate c request .pairwise = .allow ∨ u.evaluate c request .pairwise = .allow := by
  constructor
  · intro allowed
    have first : v.meetOn c request .host ∈ v.domain := v.meet_mem_domain _ _
    rcases joins.mem_domain first with member | member
    · exact .inl (pairwise_allow_of_branch joins.left member allowed)
    · exact .inr (pairwise_allow_of_branch joins.right member allowed)
  · rintro (allowed | allowed)
    · exact allow_of_extends joins.left.toExtends allowed
    · exact allow_of_extends joins.right.toExtends allowed

theorem independent_allow_iff (joins : v.Joins t u) (c : Context) (request : Profile) :
    v.evaluate c request .independent = .allow ↔
      (t.permits c.labels = true ∨ u.permits c.labels = true) ∧
        (t.permits request.labels = true ∨ u.permits request.labels = true) := by
  rw [evaluate_independent_eq_allow_iff, joins.permits_iff, joins.permits_iff]

end Joins

end MeetTable

namespace Builder

variable {t u : MeetTable}

/-- The rules of tables that are apart are sound together. -/
theorem sound_of_apart (apart : t.Apart u) {rules : List MeetRule}
    (both : ∀ r, r ∈ rules ↔ r ∈ t.rules ∨ r ∈ u.rules) : Sound t.bottom rules := by
  obtain ⟨respectsT, agreeT⟩ := sound_rules t
  obtain ⟨respectsU, agreeU⟩ := sound_rules u
  -- rules of different sides are about different operands
  have differ : ∀ e ∈ t.rules, ∀ r ∈ u.rules, ¬ e.Concerns r.left r.right := by
    rintro e he r hr ⟨left, -⟩
    have known : e.left ∈ t.domain := (t.knows_of_mem_labels he e.left_mem_labels).1
    rw [left] at known
    exact apart.not_mem_domain hr r.left_mem_labels known
  constructor
  · intro r member
    rcases (both r).1 member with stored | stored
    · exact respectsT r stored
    · rw [apart.bottom]
      exact respectsU r stored
  · intro e he r hr
    rcases (both e).1 he with he | he <;> rcases (both r).1 hr with hr | hr
    · exact agreeT e he r hr
    · exact fun same => absurd same (differ e he r hr)
    · exact MeetRule.Agrees.symm fun same => absurd same (differ r hr e he)
    · exact agreeU e he r hr

/-- Tables that are apart are joined by building from the rules of both. -/
theorem exists_joins_of_apart (apart : t.Apart u) {b : Builder} (bottom : b.bottom = t.bottom)
    (both : ∀ r, r ∈ b.rules ↔ r ∈ t.rules ∨ r ∈ u.rules) :
    ∃ v, b.build = .ok v ∧ v.Joins t u := by
  have sound : Sound b.bottom b.rules := bottom ▸ sound_of_apart apart both
  obtain ⟨v, built⟩ := b.exists_build_eq_ok_iff.2 ⟨bottom ▸ t.bottom_text_ne, sound⟩
  refine ⟨v, built, apart, (bottom_of_build built).trans bottom, fun r => ?_⟩
  rw [mem_rules_iff_of_build built, both, bottom]
  -- no rule of either side is left out, since none of them mentions bottom
  refine and_iff_left_of_imp fun stored => ?_
  rcases stored with stored | stored
  · exact (t.avoids_bottom r stored).2.2
  · rw [apart.bottom]
    exact (u.avoids_bottom r stored).2.2

/-- **Tables that share only bottom do not interfere.**  Steps that set their bottom
and define the rules of both, in any order and number, build a table.  Its meets
are those of either side where they are above bottom, and bottom elsewhere.  The
laws it breaks are those the sides break.  A pairwise check allows what one of the
sides allows; an independent check may find each of context and request permitted
on a side of its own. -/
theorem combining_isolates (apart : t.Apart u) {steps : List BuildStep}
    (bottom : BuildStep.lastBottom steps = t.bottom)
    (both : ∀ r, r ∈ BuildStep.directedRules steps ↔ r ∈ t.rules ∨ r ∈ u.rules) :
    ∃ v, (ofSteps steps).build = .ok v ∧ v.bottom = t.bottom ∧
      ((∀ a b, t.meet a b ≠ t.bottom → v.meet a b = t.meet a b) ∧
        (∀ a b, u.meet a b ≠ u.bottom → v.meet a b = u.meet a b) ∧
        ∀ a b, t.meet a b = t.bottom → u.meet a b = u.bottom → v.meet a b = v.bottom) ∧
      (∀ b, b ∈ v.lawBreaks ↔ b ∈ t.lawBreaks ∨ b ∈ u.lawBreaks) ∧
      ∀ c request,
        (v.evaluate c request .pairwise = .allow ↔
          t.evaluate c request .pairwise = .allow ∨ u.evaluate c request .pairwise = .allow) ∧
        (v.evaluate c request .independent = .allow ↔
          (t.permits c.labels = true ∨ u.permits c.labels = true) ∧
            (t.permits request.labels = true ∨ u.permits request.labels = true)) := by
  rw [← bottom_ofSteps] at bottom
  rw [← rules_ofSteps] at both
  obtain ⟨v, built, joins⟩ := exists_joins_of_apart apart bottom both
  refine ⟨v, built, joins.bottom, ⟨?_, ?_, ?_⟩, joins.mem_lawBreaks_iff, fun c request => ?_⟩
  · exact fun a b above => MeetTable.meet_of_extends joins.left.toExtends above
  · exact fun a b above => MeetTable.meet_of_extends joins.right.toExtends above
  · exact fun a b left right => joins.meet_eq_bottom left right
  · exact ⟨joins.pairwise_allow_iff c request, joins.independent_allow_iff c request⟩

/-- The definitions of `oneSided` and `wearing`, mixed. -/
def mixed : List BuildStep :=
  [.define ⟨"NEW"⟩ ⟨"NEW"⟩ ⟨"USED"⟩, .define ⟨"A"⟩ ⟨"B"⟩ ⟨"A"⟩,
    .defineSymmetric ⟨"USED"⟩ ⟨"NEW"⟩ ⟨"USED"⟩, .define ⟨"A"⟩ ⟨"A"⟩ ⟨"A"⟩,
    .define ⟨"USED"⟩ ⟨"USED"⟩ ⟨"USED"⟩]

/-- Two tables without laws, each with its own breaks, and labels that only an
independent check accepts from different sides. -/
theorem mixed_isolates :
    MeetTable.oneSided.Apart MeetTable.wearing ∧
    ∃ v, (ofSteps mixed).build = .ok v ∧
      (v.meet ⟨"A"⟩ ⟨"B"⟩ = ⟨"A"⟩ ∧ v.meet ⟨"NEW"⟩ ⟨"NEW"⟩ = ⟨"USED"⟩ ∧
        v.meet ⟨"A"⟩ ⟨"NEW"⟩ = v.bottom) ∧
      (.notCommutative ⟨"A"⟩ ⟨"B"⟩ ⟨"A"⟩ ⟨"BOTTOM"⟩ ∈ v.lawBreaks ∧
        .notIdempotent ⟨"NEW"⟩ ⟨"USED"⟩ ∈ v.lawBreaks) ∧
      v.evaluate ⟨.uniform ⟨"A"⟩⟩ (.uniform ⟨"NEW"⟩) .independent = .allow ∧
      v.evaluate ⟨.uniform ⟨"A"⟩⟩ (.uniform ⟨"B"⟩) .pairwise = .allow ∧
      v.evaluate ⟨.uniform ⟨"A"⟩⟩ (.uniform ⟨"NEW"⟩) .pairwise ≠ .allow := by
  have apart : MeetTable.oneSided.Apart MeetTable.wearing := ⟨by decide, by decide⟩
  have bottom : BuildStep.lastBottom mixed = MeetTable.oneSided.bottom := by decide
  have forth : ∀ r ∈ BuildStep.directedRules mixed,
      r ∈ MeetTable.oneSided.rules ∨ r ∈ MeetTable.wearing.rules := by decide
  have back : ∀ r ∈ MeetTable.oneSided.rules ++ MeetTable.wearing.rules,
      r ∈ BuildStep.directedRules mixed := by decide
  have both : ∀ r, r ∈ BuildStep.directedRules mixed ↔
      r ∈ MeetTable.oneSided.rules ∨ r ∈ MeetTable.wearing.rules :=
    fun r => ⟨forth r, fun either => back r (List.mem_append.2 either)⟩
  obtain ⟨v, built, -, ⟨left, right, neither⟩, breaks, decisions⟩ :=
    combining_isolates apart bottom both
  refine ⟨apart, v, built, ⟨left _ _ (by decide), right _ _ (by decide), ?_⟩, ⟨?_, ?_⟩, ?_, ?_, ?_⟩
  · exact neither _ _ (by decide) (by decide)
  · exact (breaks _).2 (.inl (by decide))
  · exact (breaks _).2 (.inr (by decide))
  · exact (decisions _ _).2.2 ⟨.inl (by decide), .inr (by decide)⟩
  · exact (decisions _ _).1.2 (.inl (by decide))
  · rw [Ne, (decisions _ _).1]
    decide

end Builder

end Clearance

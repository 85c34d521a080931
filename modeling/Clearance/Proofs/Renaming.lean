/-
# Clearance.Proofs.Renaming -- labels are opaque

Nothing that is built, folded, reported or decided looks inside a label.  Labels are
compared for being the same, which an injective renaming keeps, and they are put in
order, which it does not.  The order shows only where things are listed: a renamed
table has its rules and its domain in other places, and of an unordered pair the
report tries the other side first.

* `checkRules_rename`: the checks of a build take the same course, and say the same
  of the renamed labels;
* `exists_build_rename_iff`, `renamed_of_build`: so the renamed definitions build where
  the definitions do, and what they build has the renamed rules and no others
  (`MeetTable.Renamed`);
* `Renamed.meet_map`, `Renamed.meetAll_map`, `Renamed.evaluate_rename`: what it answers
  is renamed, and what it decides is the same;
* `Renamed.length_lawBreaks`: as many breaks are reported.  A break is counted once
  for each label, unordered pair or triple, in whatever order these come.

A renaming need not reach every label.  Of a label it does not reach nothing is said.
-/
import Mathlib.Data.List.Nodup
import Mathlib.Data.List.Perm.Basic
import Mathlib.Logic.Equiv.Basic
import Clearance.Proofs.LawReport
import Clearance.Proofs.Meaning

namespace Clearance

set_option autoImplicit false

/-! ## Renamed data -/

section

variable (f : Label → Label)

def MeetRule.rename (r : MeetRule) : MeetRule :=
  ⟨f r.left, f r.right, f r.result⟩

def BuildStep.rename : BuildStep → BuildStep
  | .bottom label => .bottom (f label)
  | .define a b m => .define (f a) (f b) (f m)
  | .defineSymmetric a b m => .defineSymmetric (f a) (f b) (f m)
  | .chain levels => .chain (levels.map f)

def BuildError.rename : BuildError → BuildError
  | .emptyBottom => .emptyBottom
  | .bottomNotAbsorbing a b m => .bottomNotAbsorbing (f a) (f b) (f m)
  | .conflictingDefinition a b existing new =>
      .conflictingDefinition (f a) (f b) (f existing) (f new)

def Builder.rename (b : Builder) : Builder :=
  ⟨f b.bottom, b.rules.map (MeetRule.rename f)⟩

def Profile.rename (p : Profile) : Profile :=
  ⟨f p.host, f p.context, f p.runtime, f p.command, f p.financial⟩

def Context.rename (c : Context) : Context :=
  ⟨c.profile.rename f⟩

@[simp] theorem Profile.get_rename (p : Profile) (d : Dimension) :
    (p.rename f).get d = f (p.get d) := by
  cases d <;> rfl

@[simp] theorem Profile.labels_rename (p : Profile) : (p.rename f).labels = p.labels.map f :=
  rfl

end

/-! ## Pairs and triples over a list in another order -/

section

variable {α β : Type}

theorem orderedPairs_map (g : α → β) (xs : List α) :
    orderedPairs (xs.map g) = (orderedPairs xs).map (Prod.map g g) := by
  induction xs with
  | nil => rfl
  | cons x xs ih => simp [orderedPairs, ih, Function.comp_def]

theorem orderedTriples_map (g : α → β) (xs : List α) :
    orderedTriples (xs.map g) = (orderedTriples xs).map (Prod.map g (Prod.map g g)) := by
  simp [orderedTriples, List.flatMap_map, List.map_flatMap, Function.comp_def]

theorem orderedTriples_perm {xs ys : List α} (perm : xs.Perm ys) :
    (orderedTriples xs).Perm (orderedTriples ys) :=
  perm.flatMap fun _ _ => perm.flatMap fun _ _ => perm.map _

/-- What does not tell the sides of a pair apart holds of as many pairs, in whatever
order the list is. -/
theorem countP_orderedPairs_of_perm {p : α × α → Bool} (symmetric : ∀ x y, p (x, y) = p (y, x))
    {xs ys : List α} (perm : xs.Perm ys) :
    (orderedPairs xs).countP p = (orderedPairs ys).countP p := by
  induction perm with
  | nil => rfl
  | cons x perm ih =>
      simp only [orderedPairs, List.countP_append, List.countP_map, ih, perm.countP_eq]
  | swap x y xs =>
      simp only [orderedPairs, List.map_cons, List.cons_append, List.countP_cons,
        List.countP_append, symmetric y x]
      omega
  | trans _ _ first second => exact first.trans second

end

variable {f : Label → Label}

/-! ## Renamed definitions -/

namespace MeetRule

theorem breaksAbsorption_rename (inj : Function.Injective f) {r : MeetRule} {bottom : Label} :
    (r.rename f).BreaksAbsorption (f bottom) ↔ r.BreaksAbsorption bottom := by
  simp only [BreaksAbsorption, rename, inj.eq_iff, Ne]

theorem concerns_rename (inj : Function.Injective f) {r : MeetRule} {a b : Label} :
    (r.rename f).Concerns (f a) (f b) ↔ r.Concerns a b := by
  simp only [Concerns, rename, inj.eq_iff]

theorem agrees_rename (inj : Function.Injective f) {e r : MeetRule} :
    (e.rename f).Agrees (r.rename f) ↔ e.Agrees r := by
  simp only [Agrees, Concerns, rename, inj.eq_iff]

end MeetRule

theorem chainRules_map (inj : Function.Injective f) (levels : List Label) :
    chainRules (levels.map f) = (chainRules levels).map (MeetRule.rename f) := by
  induction levels with
  | nil => rfl
  | cons high lower ih =>
      rw [List.map_cons, chainRules, chainRules, ih, List.map_append, List.map_flatMap,
        ← List.map_cons, List.flatMap_map]
      congr 1
      refine List.flatMap_congr fun low _ => ?_
      by_cases same : high = low <;> simp [same, inj.eq_iff, MeetRule.rename]

namespace BuildStep

theorem rules_rename (inj : Function.Injective f) (s : BuildStep) :
    (s.rename f).rules = s.rules.map (MeetRule.rename f) := by
  cases s with
  | bottom label => rfl
  | define a b m => rfl
  | defineSymmetric a b m =>
      by_cases same : a = b <;> simp [rename, rules, same, inj.eq_iff, MeetRule.rename]
  | chain levels => exact chainRules_map inj levels

/-- The renamed steps, and after them the renamed bottom. -/
def renameAll (f : Label → Label) (steps : List BuildStep) : List BuildStep :=
  steps.map (rename f) ++ [.bottom (f (lastBottom steps))]

theorem lastBottom_renameAll (steps : List BuildStep) :
    lastBottom (renameAll f steps) = f (lastBottom steps) := by
  have last : (renameAll f steps).filterMap bottom? =
      (steps.map (rename f)).filterMap bottom? ++ [f (lastBottom steps)] := by
    rw [renameAll, List.filterMap_append]
    rfl
  rw [lastBottom, last, List.getLast?_concat, Option.getD_some]

theorem directedRules_renameAll (inj : Function.Injective f) (steps : List BuildStep) :
    directedRules (renameAll f steps) = (directedRules steps).map (MeetRule.rename f) := by
  have final : directedRules [.bottom (f (lastBottom steps))] = [] := rfl
  rw [renameAll, directedRules_append, final, List.append_nil, directedRules, directedRules,
    List.flatMap_map, List.map_flatMap]
  exact List.flatMap_congr fun s _ => rules_rename inj s

end BuildStep

namespace Builder

variable {b : Builder} {bottom : Label}

theorem ofSteps_renameAll (inj : Function.Injective f) (steps : List BuildStep) :
    ofSteps (BuildStep.renameAll f steps) = (ofSteps steps).rename f := by
  have sameBottom := bottom_ofSteps (BuildStep.renameAll f steps)
  have sameRules := rules_ofSteps (BuildStep.renameAll f steps)
  rw [BuildStep.lastBottom_renameAll, ← bottom_ofSteps] at sameBottom
  rw [BuildStep.directedRules_renameAll inj, ← rules_ofSteps] at sameRules
  rw [rename, ← sameBottom, ← sameRules]

/-! ## The checks of a build -/

theorem checkRule_rename (inj : Function.Injective f) (earlier : List MeetRule) (r : MeetRule) :
    checkRule (f bottom) (earlier.map (MeetRule.rename f)) (r.rename f) =
      (checkRule bottom earlier r).mapError (BuildError.rename f) := by
  have found : (earlier.map (MeetRule.rename f)).find?
        (fun e => e.Concerns (r.rename f).left (r.rename f).right) =
      (earlier.find? fun e => e.Concerns r.left r.right).map (MeetRule.rename f) := by
    rw [List.find?_map]
    congr 2
    funext e
    exact decide_eq_decide.2 (MeetRule.concerns_rename inj)
  by_cases breaks : r.BreaksAbsorption bottom
  · simp only [checkRule, MeetRule.breaksAbsorption_rename inj, breaks, if_true]
    rfl
  · simp only [checkRule, MeetRule.breaksAbsorption_rename inj, breaks, if_false, found]
    cases earlier.find? fun e => e.Concerns r.left r.right with
    | none => rfl
    | some e =>
        by_cases same : e.result = r.result
        · simp [same, MeetRule.rename, Except.mapError]
        · simp [same, inj.eq_iff, MeetRule.rename, Except.mapError, BuildError.rename]

/-- The checks take the same course, and say the same of the renamed labels. -/
theorem checkRules_rename (inj : Function.Injective f) (bottom : Label)
    (earlier rules : List MeetRule) :
    checkRules (f bottom) (earlier.map (MeetRule.rename f)) (rules.map (MeetRule.rename f)) =
      (checkRules bottom earlier rules).mapError (BuildError.rename f) := by
  induction rules generalizing earlier with
  | nil => rfl
  | cons r rest ih =>
      rw [List.map_cons, checkRules, checkRules, checkRule_rename inj]
      cases checkRule bottom earlier r with
      | error e => rfl
      | ok _ => exact ih (r :: earlier)

theorem offends_rename (inj : Function.Injective f) {rules : List MeetRule} {i : Nat} :
    Offends (f bottom) (rules.map (MeetRule.rename f)) i ↔ Offends bottom rules i := by
  simp only [Offends, List.getElem?_map, ← List.map_take, List.mem_map, Option.map_eq_some_iff,
    exists_exists_and_eq_and, MeetRule.breaksAbsorption_rename inj, MeetRule.agrees_rename inj]

theorem firstOffence_rename (inj : Function.Injective f) {rules : List MeetRule} {i : Nat} :
    FirstOffence (f bottom) (rules.map (MeetRule.rename f)) i ↔ FirstOffence bottom rules i := by
  simp only [FirstOffence, offends_rename inj]

theorem sound_rename (inj : Function.Injective f) {rules : List MeetRule} :
    Sound (f bottom) (rules.map (MeetRule.rename f)) ↔ Sound bottom rules := by
  simp only [sound_iff_not_offends, offends_rename inj]

theorem build_rename_of_error (inj : Function.Injective f) (ne : b.bottom.text ≠ "")
    (renamedNe : (f b.bottom).text ≠ "") {e : BuildError} (failed : b.build = .error e) :
    (b.rename f).build = .error (e.rename f) := by
  obtain ⟨-, stopped⟩ := (b.build_eq_error_iff.1 failed).resolve_left fun empty => ne empty.1
  refine (build_eq_error_iff _).2 (.inr ⟨renamedNe, ?_⟩)
  have course := checkRules_rename inj b.bottom [] b.rules
  rw [stopped] at course
  exact course

end Builder

/-! ## Renamed tables -/

namespace MeetTable

/-- `u` has the bottom and the rules of `t` with all labels renamed, and no others. -/
structure Renamed (f : Label → Label) (t u : MeetTable) : Prop where
  injective : Function.Injective f
  bottom : u.bottom = f t.bottom
  rules : ∀ r, r ∈ u.rules ↔ ∃ s ∈ t.rules, s.rename f = r

namespace Renamed

variable {t u : MeetTable}

theorem meet_map (renamed : Renamed f t u) (a b : Label) : u.meet (f a) (f b) = f (t.meet a b) := by
  by_cases atBottom : t.meet a b = t.bottom
  · rw [atBottom, ← renamed.bottom]
    by_contra above
    have stored : ⟨f a, f b, u.meet (f a) (f b)⟩ ∈ u.rules := u.rule_of_meet_ne_bottom above
    obtain ⟨s, member, same⟩ := (renamed.rules _).1 stored
    obtain ⟨left, right, -⟩ := MeetRule.mk.inj same
    have result : t.meet a b = s.result := by
      rw [← renamed.injective left, ← renamed.injective right]
      exact t.meet_of_mem member
    exact (t.avoids_bottom s member).2.2 (result.symm.trans atBottom)
  · have stored : ⟨a, b, t.meet a b⟩ ∈ t.rules := t.rule_of_meet_ne_bottom atBottom
    exact u.meet_of_mem ((renamed.rules _).2 ⟨_, stored, rfl⟩)

theorem eq_bottom_iff (renamed : Renamed f t u) {l : Label} : f l = u.bottom ↔ l = t.bottom := by
  rw [renamed.bottom, renamed.injective.eq_iff]

/-! ### Folds and decisions -/

theorem foldl_map (renamed : Renamed f t u) (start : Label) (ls : List Label) :
    (ls.map f).foldl u.meet (f start) = f (ls.foldl t.meet start) := by
  induction ls generalizing start with
  | nil => rfl
  | cons l ls ih => rw [List.map_cons, List.foldl_cons, List.foldl_cons, renamed.meet_map, ih]

theorem meetAll_map (renamed : Renamed f t u) (ls : List Label) :
    u.meetAll (ls.map f) = f (t.meetAll ls) := by
  cases ls with
  | nil => exact renamed.bottom
  | cons l ls => exact renamed.foldl_map l ls

theorem permits_map (renamed : Renamed f t u) (ls : List Label) :
    u.permits (ls.map f) = t.permits ls := by
  rw [permits, permits, renamed.meetAll_map]
  exact decide_eq_decide.2 (not_congr renamed.eq_bottom_iff)

theorem meetOn_rename (renamed : Renamed f t u) (c : Context) (request : Profile) (d : Dimension) :
    u.meetOn (c.rename f) (request.rename f) d = f (t.meetOn c request d) := by
  rw [meetOn, meetOn, ← renamed.meet_map, Profile.get_rename]
  exact congrArg (fun l => u.meet l _) (c.profile.get_rename f d)

theorem insufficient?_rename (renamed : Renamed f t u) (c : Context) (request : Profile) :
    u.insufficient? (c.rename f) (request.rename f) = t.insufficient? c request := by
  rw [insufficient?, insufficient?]
  congr 1
  funext d
  rw [renamed.meetOn_rename]
  exact decide_eq_decide.2 renamed.eq_bottom_iff

/-- The decision is the same, and so is its reason. -/
theorem evaluate_rename (renamed : Renamed f t u) (c : Context) (request : Profile) (mode : Mode) :
    u.evaluate (c.rename f) (request.rename f) mode = t.evaluate c request mode := by
  cases mode with
  | independent =>
      have context : u.permits (c.rename f).labels = t.permits c.labels :=
        renamed.permits_map c.labels
      rw [evaluate_independent, evaluate_independent, context, Profile.labels_rename,
        renamed.permits_map]
  | pairwise =>
      have meets : Dimension.all.map (u.meetOn (c.rename f) (request.rename f)) =
          (Dimension.all.map (t.meetOn c request)).map f := by
        rw [List.map_map]
        exact List.map_congr_left fun d _ => renamed.meetOn_rename c request d
      rw [evaluate_pairwise, evaluate_pairwise, renamed.insufficient?_rename, meets,
        renamed.permits_map]

/-! ### The report -/

theorem domain_perm (renamed : Renamed f t u) : u.domain.Perm (t.domain.map f) := by
  have nodup := Ordered.nodup_of_ascending t.domain_ascending
  refine (List.perm_ext_iff_of_nodup (Ordered.nodup_of_ascending u.domain_ascending)
    (nodup.map renamed.injective)).2 fun l => ?_
  rw [u.mem_domain_iff, List.mem_map]
  constructor
  · rintro (rfl | ⟨r, stored, mentioned⟩)
    · exact ⟨t.bottom, t.bottom_mem_domain, renamed.bottom.symm⟩
    · obtain ⟨s, member, rfl⟩ := (renamed.rules r).1 stored
      obtain ⟨m, inside, rfl⟩ := List.mem_map.1 (show l ∈ s.labels.map f from mentioned)
      exact ⟨m, (t.knows_of_mem_labels member inside).1, rfl⟩
  · rintro ⟨m, known, rfl⟩
    rcases t.mem_domain_iff.1 known with rfl | ⟨s, member, mentioned⟩
    · exact .inl renamed.bottom.symm
    · exact .inr ⟨_, (renamed.rules _).2 ⟨s, member, rfl⟩, List.mem_map_of_mem mentioned⟩

theorem length_lawBreaks (renamed : Renamed f t u) :
    u.lawBreaks.length = t.lawBreaks.length := by
  have perm := renamed.domain_perm
  have labels : u.domain.countP (fun a => (u.idempotenceBreak? a).isSome) =
      t.domain.countP fun a => (t.idempotenceBreak? a).isSome := by
    rw [perm.countP_eq, List.countP_map]
    refine List.countP_congr fun a _ => ?_
    simp [idempotenceBreak?, renamed.meet_map, renamed.eq_bottom_iff, renamed.injective.eq_iff]
  have pairs : (orderedPairs u.domain).countP (fun p => (u.commutativityBreak? p).isSome) =
      (orderedPairs t.domain).countP fun p => (t.commutativityBreak? p).isSome := by
    rw [countP_orderedPairs_of_perm _ perm, orderedPairs_map, List.countP_map]
    · refine List.countP_congr fun p _ => ?_
      simp [commutativityBreak?, renamed.meet_map, renamed.injective.eq_iff]
    · intro a b
      by_cases same : u.meet a b = u.meet b a <;> simp [commutativityBreak?, same, Ne.symm]
  have triples : (orderedTriples u.domain).countP (fun q => (u.associativityBreak? q).isSome) =
      (orderedTriples t.domain).countP fun q => (t.associativityBreak? q).isSome := by
    rw [(orderedTriples_perm perm).countP_eq, orderedTriples_map, List.countP_map]
    refine List.countP_congr fun q _ => ?_
    simp [associativityBreak?, renamed.meet_map, renamed.injective.eq_iff]
  simp only [lawBreaks, List.length_append, List.length_filterMap_eq_countP, labels, pairs, triples]

end Renamed

end MeetTable

namespace Builder

variable {b : Builder}

/-- Renamed definitions build where the definitions do. -/
theorem exists_build_rename_iff (inj : Function.Injective f) (ne : b.bottom.text ≠ "")
    (renamedNe : (f b.bottom).text ≠ "") :
    (∃ u, (b.rename f).build = .ok u) ↔ ∃ t, b.build = .ok t := by
  rw [exists_build_eq_ok_iff, exists_build_eq_ok_iff]
  exact and_congr (iff_of_true renamedNe ne) (sound_rename inj)

/-- What they build is the renamed table. -/
theorem renamed_of_build (inj : Function.Injective f) {t u : MeetTable} (built : b.build = .ok t)
    (rebuilt : (b.rename f).build = .ok u) : MeetTable.Renamed f t u := by
  refine ⟨inj, ?_, fun r => ?_⟩
  · rw [bottom_of_build rebuilt, bottom_of_build built]
    rfl
  · rw [mem_rules_iff_of_build rebuilt]
    constructor
    · rintro ⟨defined, above⟩
      obtain ⟨s, member, rfl⟩ := List.mem_map.1 defined
      have kept : s.result ≠ b.bottom := fun atBottom => above (congrArg f atBottom)
      exact ⟨s, (mem_rules_iff_of_build built).2 ⟨member, kept⟩, rfl⟩
    · rintro ⟨s, stored, rfl⟩
      obtain ⟨member, above⟩ := (mem_rules_iff_of_build built).1 stored
      exact ⟨List.mem_map_of_mem member, fun atBottom => above (inj atBottom)⟩

/-- **Labels are opaque.**  Steps whose labels are renamed by an injective function,
and after them the renamed bottom, build where the steps do.  Where these fail, the
renamed ones fail at the same place, in the same way, with renamed labels.  Where both
build, all meets and folds are renamed, as many laws are broken in as many places, and
every decision about a renamed context and request is the same, its reason included. -/
theorem renaming_keeps_decisions (inj : Function.Injective f) (steps : List BuildStep)
    (ne : (BuildStep.lastBottom steps).text ≠ "")
    (renamedNe : (f (BuildStep.lastBottom steps)).text ≠ "") :
    let bottom := BuildStep.lastBottom steps
    let renamed := steps.map (BuildStep.rename f) ++ [.bottom (f bottom)]
    ((∃ u, (ofSteps renamed).build = .ok u) ↔ ∃ t, (ofSteps steps).build = .ok t) ∧
    (∀ e, (ofSteps steps).build = .error e → (ofSteps renamed).build = .error (e.rename f)) ∧
    (∀ i, FirstOffence (f bottom) (BuildStep.directedRules renamed) i ↔
      FirstOffence bottom (BuildStep.directedRules steps) i) ∧
    ∀ t u, (ofSteps steps).build = .ok t → (ofSteps renamed).build = .ok u →
      (∀ a b, u.meet (f a) (f b) = f (t.meet a b)) ∧
      (∀ ls, u.meetAll (ls.map f) = f (t.meetAll ls)) ∧
      u.lawBreaks.length = t.lawBreaks.length ∧
      ∀ c request mode,
        u.evaluate (c.rename f) (request.rename f) mode = t.evaluate c request mode := by
  intro bottom renamed
  have sameRules := BuildStep.directedRules_renameAll inj steps
  have sameBuilder : ofSteps renamed = (ofSteps steps).rename f := ofSteps_renameAll inj steps
  rw [← bottom_ofSteps] at ne renamedNe
  rw [sameBuilder]
  refine ⟨exists_build_rename_iff inj ne renamedNe, ?_, fun i => ?_, fun t u built rebuilt => ?_⟩
  · exact fun e failed => build_rename_of_error inj ne renamedNe failed
  · exact (congrArg (FirstOffence (f bottom) · i) sameRules).to_iff.trans (firstOffence_rename inj)
  · have renames := renamed_of_build inj built rebuilt
    exact ⟨renames.meet_map, renames.meetAll_map, renames.length_lawBreaks,
      renames.evaluate_rename⟩

/-- `A` and the default bottom change places. -/
def swapped : Label → Label :=
  Equiv.swap ⟨"A"⟩ .defaultBottom

/-- A chain, and a label that meets its upper level from one side only. -/
def lopsided : List BuildStep :=
  [.chain [⟨"A"⟩, ⟨"B"⟩], .define ⟨"A"⟩ ⟨"C"⟩ ⟨"B"⟩]

/-- With `A` for bottom, what was said of `A` is said of `BOTTOM`: a conflict, a
one-sided meet and the breaks it makes, and a denial. -/
theorem swapped_keeps_decisions :
    (Function.Injective swapped ∧ (BuildStep.lastBottom lopsided).text ≠ "" ∧
      (swapped (BuildStep.lastBottom lopsided)).text ≠ "") ∧
    (ofSteps ((lopsided ++ [BuildStep.define ⟨"A"⟩ ⟨"B"⟩ ⟨"A"⟩]).map (BuildStep.rename swapped) ++
      [.bottom ⟨"A"⟩])).build =
        .error (.conflictingDefinition ⟨"BOTTOM"⟩ ⟨"B"⟩ ⟨"B"⟩ ⟨"BOTTOM"⟩) ∧
    ∃ u, (ofSteps (lopsided.map (BuildStep.rename swapped) ++ [.bottom ⟨"A"⟩])).build = .ok u ∧
      u.meet ⟨"BOTTOM"⟩ ⟨"C"⟩ = ⟨"B"⟩ ∧
      u.meetAll [⟨"C"⟩, ⟨"BOTTOM"⟩] = ⟨"A"⟩ ∧
      u.lawBreaks.length = 5 ∧
      u.evaluate ⟨.uniform ⟨"C"⟩⟩ (.uniform ⟨"BOTTOM"⟩) .pairwise =
        .deny (.dimensionInsufficient .host) := by
  have inj : Function.Injective swapped := (Equiv.swap _ _).injective
  have named : (BuildStep.lastBottom lopsided).text ≠ "" := by decide
  have renamedNamed : (swapped (BuildStep.lastBottom lopsided)).text ≠ "" := by decide
  obtain ⟨-, failure, -⟩ := renaming_keeps_decisions inj
    (lopsided ++ [.define ⟨"A"⟩ ⟨"B"⟩ ⟨"A"⟩]) named renamedNamed
  obtain ⟨succeeds, -, -, answers⟩ := renaming_keeps_decisions inj lopsided named renamedNamed
  obtain ⟨u, rebuilt⟩ := succeeds.2 ⟨(ofSteps lopsided).build.toOption.get (by decide), rfl⟩
  obtain ⟨meets, folds, breaks, decisions⟩ := answers _ u rfl rebuilt
  refine ⟨⟨inj, named, renamedNamed⟩, failure _ rfl, u, rebuilt, meets ⟨"A"⟩ ⟨"C"⟩, ?_, ?_, ?_⟩
  · exact folds [⟨"C"⟩, ⟨"A"⟩]
  · exact breaks.trans (by decide)
  · exact (decisions ⟨.uniform ⟨"C"⟩⟩ (.uniform ⟨"A"⟩) .pairwise).trans (by decide)

end Builder

end Clearance

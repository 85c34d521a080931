/-
# Clearance.Proofs.Construction -- which definitions make a table, and what is said of the rest

`Builder.build` checks its rules one by one, each against those before it, and
stops at the first that fails.  What it accepts has nothing to do with an order:
the rules are `Sound` when none breaks absorption and every two that are about
the same operands have one result.  Rules whose result is bottom count as well,
though the table leaves them out.

What it refuses is described by the first rule in order of definition that is at
fault (`FirstOffence`).  A rule that breaks absorption is reported for that; any
other disagrees with an earlier rule, and all earlier rules about its operands
have the one result the report names (`Describes`).

* `checkRules_eq_ok_iff`: the checks pass sound rules and no others;
* `checkRules_eq_error_iff`: they fail with the description of the first offence;
* `build_ofSteps_outcome`: both, for the builder of any list of steps;
* `build_rules`: every table is built by some builder, so that what is proved of
  all tables is proved of those that are built, and of no others.
-/
import Mathlib.Tactic.ByContra
import Clearance.Proofs.Steps

namespace Clearance

set_option autoImplicit false

namespace MeetRule

/-- The rules are about different operands, or they have one result. -/
def Agrees (e r : MeetRule) : Prop :=
  e.Concerns r.left r.right → e.result = r.result

theorem agrees_refl (r : MeetRule) : r.Agrees r :=
  fun _ => rfl

theorem Agrees.symm {e r : MeetRule} (agrees : e.Agrees r) : r.Agrees e :=
  fun same => (agrees ⟨same.1.symm, same.2.symm⟩).symm

end MeetRule

namespace Builder

/-- Every two rules agree. -/
def Agreeing (rules : List MeetRule) : Prop :=
  ∀ e ∈ rules, ∀ r ∈ rules, e.Agrees r

/-- No rule breaks absorption, and every two agree. -/
def Sound (bottom : Label) (rules : List MeetRule) : Prop :=
  (∀ r ∈ rules, ¬ r.BreaksAbsorption bottom) ∧ Agreeing rules

/-- The rule at place `i` breaks absorption or disagrees with an earlier one. -/
def Offends (bottom : Label) (rules : List MeetRule) (i : Nat) : Prop :=
  ∃ r, rules[i]? = some r ∧ (r.BreaksAbsorption bottom ∨ ∃ e ∈ rules.take i, ¬ e.Agrees r)

/-- The least place that offends. -/
def FirstOffence (bottom : Label) (rules : List MeetRule) (i : Nat) : Prop :=
  Offends bottom rules i ∧ ∀ j < i, ¬ Offends bottom rules j

/-- What is said of rule `r` after the rules `earlier`: that it breaks absorption,
or else which result the earlier rules about its operands have. -/
inductive Describes (bottom : Label) (earlier : List MeetRule) (r : MeetRule) : BuildError → Prop
  | absorption (breaks : r.BreaksAbsorption bottom) :
      Describes bottom earlier r (.bottomNotAbsorbing r.left r.right r.result)
  | conflict {existing : Label} (respects : ¬ r.BreaksAbsorption bottom)
      (before : ∃ e ∈ earlier, e.Concerns r.left r.right)
      (carried : ∀ e ∈ earlier, e.Concerns r.left r.right → e.result = existing)
      (differs : existing ≠ r.result) :
      Describes bottom earlier r (.conflictingDefinition r.left r.right existing r.result)

variable {bottom : Label}

/-! ## Rules that agree -/

theorem agreeing_of_subset {xs ys : List MeetRule} (agree : Agreeing ys)
    (subset : ∀ r ∈ xs, r ∈ ys) : Agreeing xs :=
  fun e he r hr => agree e (subset e he) r (subset r hr)

theorem sound_of_subset {xs ys : List MeetRule} (sound : Sound bottom ys)
    (subset : ∀ r ∈ xs, r ∈ ys) : Sound bottom xs :=
  ⟨fun r member => sound.1 r (subset r member), agreeing_of_subset sound.2 subset⟩

theorem agreeing_cons_iff {r : MeetRule} {rules : List MeetRule} :
    Agreeing (r :: rules) ↔ (∀ e ∈ rules, e.Agrees r) ∧ Agreeing rules := by
  constructor
  · intro agree
    refine ⟨fun e member => agree e (List.mem_cons_of_mem _ member) r (List.mem_cons_self ..), ?_⟩
    exact agreeing_of_subset agree fun e member => List.mem_cons_of_mem _ member
  · rintro ⟨first, rest⟩ e he s hs
    rcases List.mem_cons.1 he with headE | he <;> rcases List.mem_cons.1 hs with headS | hs
    · rw [headE, headS]
      exact r.agrees_refl
    · rw [headE]
      exact (first s hs).symm
    · rw [headS]
      exact first e he
    · exact rest e he s hs

/-- Among rules that agree, the one that is found speaks for all about its operands. -/
theorem result_of_find? {earlier : List MeetRule} (agree : Agreeing earlier) {a b : Label}
    {f : MeetRule} (found : earlier.find? (fun e => e.Concerns a b) = some f) :
    (f ∈ earlier ∧ f.Concerns a b) ∧
      ∀ e ∈ earlier, e.Concerns a b → e.result = f.result := by
  have member := List.mem_of_find?_eq_some found
  have concerns : f.Concerns a b := by simpa using List.find?_some found
  refine ⟨⟨member, concerns⟩, fun e he same => agree e he f member ?_⟩
  exact ⟨same.1.trans concerns.1.symm, same.2.trans concerns.2.symm⟩

/-! ## One check -/

theorem checkRule_eq_ok_iff {earlier : List MeetRule} (agree : Agreeing earlier) {r : MeetRule} :
    checkRule bottom earlier r = .ok () ↔
      ¬ r.BreaksAbsorption bottom ∧ ∀ e ∈ earlier, e.Agrees r := by
  by_cases breaks : r.BreaksAbsorption bottom
  · simp [checkRule, breaks]
  · cases found : earlier.find? fun e => e.Concerns r.left r.right with
    | none =>
        have unrelated : ∀ e ∈ earlier, ¬ e.Concerns r.left r.right := by
          simpa using List.find?_eq_none.1 found
        simp only [checkRule, breaks, found, if_false, not_false_eq_true, true_and, true_iff]
        exact fun e member same => absurd same (unrelated e member)
    | some f =>
        obtain ⟨⟨member, concerns⟩, speaks⟩ := result_of_find? agree found
        by_cases same : f.result = r.result
        · simp only [checkRule, breaks, found, same, if_true, if_false, not_false_eq_true,
            true_and, true_iff]
          exact fun e he about => (speaks e he about).trans same
        · simp only [checkRule, breaks, found, same, if_false, reduceCtorEq, not_false_eq_true,
            true_and, false_iff]
          exact fun agrees => same (agrees f member concerns)

theorem checkRule_eq_error_iff {earlier : List MeetRule} (agree : Agreeing earlier)
    {r : MeetRule} {e : BuildError} :
    checkRule bottom earlier r = .error e ↔ Describes bottom earlier r e := by
  constructor
  · intro failed
    by_cases breaks : r.BreaksAbsorption bottom
    · simp only [checkRule, breaks, if_true, Except.error.injEq] at failed
      exact failed ▸ .absorption breaks
    · cases found : earlier.find? fun e => e.Concerns r.left r.right with
      | none => simp [checkRule, breaks, found] at failed
      | some f =>
          obtain ⟨before, speaks⟩ := result_of_find? agree found
          by_cases same : f.result = r.result
          · simp [checkRule, breaks, found, same] at failed
          · simp only [checkRule, breaks, found, same, if_false, Except.error.injEq] at failed
            exact failed ▸ .conflict breaks ⟨f, before⟩ speaks same
  · intro described
    cases described with
    | absorption breaks => simp [checkRule, breaks]
    | conflict breaks before carried differs =>
        cases found : earlier.find? fun e => e.Concerns r.left r.right with
        | none =>
            obtain ⟨e, member, concerns⟩ := before
            exact absurd concerns (by simpa using List.find?_eq_none.1 found e member)
        | some f =>
            obtain ⟨⟨member, concerns⟩, -⟩ := result_of_find? agree found
            have existing := carried f member concerns
            simp [checkRule, breaks, found, existing, differs]

theorem describes_congr {xs ys : List MeetRule} {r : MeetRule} {e : BuildError}
    (same : ∀ s, s ∈ xs ↔ s ∈ ys) : Describes bottom xs r e ↔ Describes bottom ys r e := by
  constructor <;> intro described <;> cases described with
  | absorption breaks => exact .absorption breaks
  | conflict respects before carried differs =>
      exact .conflict respects (by simpa only [same] using before)
        (by simpa only [same] using carried) differs

/-- The checks keep earlier rules latest first; what they say does not depend on it. -/
theorem checkRule_reverse_eq_error_iff {earlier : List MeetRule} (agree : Agreeing earlier)
    {r : MeetRule} {e : BuildError} :
    checkRule bottom earlier.reverse r = .error e ↔ Describes bottom earlier r e := by
  rw [checkRule_eq_error_iff (agreeing_of_subset agree fun s member => List.mem_reverse.1 member)]
  exact describes_congr fun s => List.mem_reverse

/-! ## All checks -/

theorem checkRules_eq_ok_iff_of_agreeing {earlier rules : List MeetRule}
    (agree : Agreeing earlier) :
    checkRules bottom earlier rules = .ok () ↔
      (∀ r ∈ rules, ¬ r.BreaksAbsorption bottom) ∧ Agreeing (rules ++ earlier) := by
  induction rules generalizing earlier with
  | nil => simpa [checkRules] using agree
  | cons r rest ih =>
      have moved : Agreeing (rest ++ r :: earlier) ↔ Agreeing (r :: rest ++ earlier) := by
        constructor <;> intro all <;> refine agreeing_of_subset all fun s member => ?_ <;>
          simpa [or_left_comm] using member
      rw [checkRules_cons_eq_ok_iff, checkRule_eq_ok_iff agree, List.forall_mem_cons, ← moved]
      constructor
      · rintro ⟨⟨respects, agrees⟩, passed⟩
        obtain ⟨others, all⟩ := (ih (agreeing_cons_iff.2 ⟨agrees, agree⟩)).1 passed
        exact ⟨⟨respects, others⟩, all⟩
      · rintro ⟨⟨respects, others⟩, all⟩
        have known : Agreeing (r :: earlier) :=
          agreeing_of_subset all fun s member => List.mem_append_right _ member
        exact ⟨⟨respects, (agreeing_cons_iff.1 known).1⟩, (ih known).2 ⟨others, all⟩⟩

/-- The checks pass sound rules and no others. -/
theorem checkRules_eq_ok_iff {rules : List MeetRule} :
    checkRules bottom [] rules = .ok () ↔ Sound bottom rules := by
  rw [checkRules_eq_ok_iff_of_agreeing (by simp [Agreeing]), List.append_nil, Sound]

/-- A list is checked by parts, the second against the first as well. -/
theorem checkRules_append (earlier xs ys : List MeetRule) :
    checkRules bottom earlier (xs ++ ys) =
      (checkRules bottom earlier xs).bind fun _ =>
        checkRules bottom (xs.reverse ++ earlier) ys := by
  induction xs generalizing earlier with
  | nil => rfl
  | cons x xs ih =>
      rw [List.cons_append, checkRules, checkRules, List.reverse_cons, List.append_assoc]
      cases checkRule bottom earlier x with
      | error e => rfl
      | ok _ => exact ih (x :: earlier)

theorem checkRules_cons_of_error {earlier rest : List MeetRule} {r : MeetRule} {e : BuildError}
    (failed : checkRule bottom earlier r = .error e) :
    checkRules bottom earlier (r :: rest) = .error e := by
  rw [checkRules, failed]
  rfl

/-- The checks stop at a rule that fails after rules that pass. -/
theorem checkRules_eq_error_iff_exists {earlier rules : List MeetRule} {e : BuildError} :
    checkRules bottom earlier rules = .error e ↔
      ∃ before r after, rules = before ++ r :: after ∧
        checkRules bottom earlier before = .ok () ∧
        checkRule bottom (before.reverse ++ earlier) r = .error e := by
  constructor
  · intro failed
    induction rules generalizing earlier with
    | nil => cases failed
    | cons s rest ih =>
        cases first : checkRule bottom earlier s with
        | error cause =>
            rw [checkRules_cons_of_error first] at failed
            exact ⟨[], s, rest, rfl, rfl, first.trans failed⟩
        | ok _ =>
            rw [checkRules, first] at failed
            obtain ⟨before, r, after, rfl, passed, atR⟩ := ih failed
            refine ⟨s :: before, r, after, rfl, checkRules_cons_eq_ok_iff.2 ⟨first, passed⟩, ?_⟩
            rwa [List.reverse_cons, List.append_assoc]
  · rintro ⟨before, r, after, rfl, passed, failed⟩
    rw [checkRules_append, passed]
    exact checkRules_cons_of_error failed

/-! ## The first offence -/

/-- Rules are sound when no place offends. -/
theorem sound_iff_not_offends {rules : List MeetRule} :
    Sound bottom rules ↔ ∀ i, ¬ Offends bottom rules i := by
  constructor
  · rintro ⟨respect, agree⟩ i ⟨r, atPlace, breaks | ⟨e, before, disagrees⟩⟩
    · exact respect r (List.mem_of_getElem? atPlace) breaks
    · exact disagrees (agree e (List.mem_of_mem_take before) r (List.mem_of_getElem? atPlace))
  · intro spotless
    have ordered : ∀ {i j : Nat} {e r : MeetRule}, i < j →
        rules[i]? = some e → rules[j]? = some r → e.Agrees r := by
      intro i j e r less atI atJ
      by_contra disagrees
      have before : e ∈ rules.take j :=
        List.mem_of_getElem? (by rwa [List.getElem?_take_of_lt less])
      exact spotless j ⟨r, atJ, .inr ⟨e, before, disagrees⟩⟩
    constructor
    · intro r member breaks
      obtain ⟨i, atI⟩ := List.getElem?_of_mem member
      exact spotless i ⟨r, atI, .inl breaks⟩
    · intro e he r hr
      obtain ⟨i, atI⟩ := List.getElem?_of_mem he
      obtain ⟨j, atJ⟩ := List.getElem?_of_mem hr
      rcases Nat.lt_trichotomy i j with less | same | greater
      · exact ordered less atI atJ
      · rw [same, atJ] at atI
        cases atI
        exact e.agrees_refl
      · exact (ordered greater atJ atI).symm

theorem offends_take_iff {rules : List MeetRule} {i j : Nat} :
    Offends bottom (rules.take i) j ↔ j < i ∧ Offends bottom rules j := by
  by_cases less : j < i
  · have before : (rules.take i).take j = rules.take j := by
      rw [List.take_take, Nat.min_eq_left (Nat.le_of_lt less)]
    simp only [Offends, List.getElem?_take_of_lt less, before, less, true_and]
  · constructor
    · rintro ⟨r, atPlace, -⟩
      rw [List.getElem?_take_eq_none (Nat.le_of_not_lt less)] at atPlace
      cases atPlace
    · exact fun inside => absurd inside.1 less

/-- The rules before a place are sound when no place before it offends. -/
theorem sound_take_iff {rules : List MeetRule} {i : Nat} :
    Sound bottom (rules.take i) ↔ ∀ j < i, ¬ Offends bottom rules j := by
  simp only [sound_iff_not_offends, offends_take_iff, not_and]

theorem offends_of_describes {rules : List MeetRule} {i : Nat} {r : MeetRule} {e : BuildError}
    (atPlace : rules[i]? = some r) (described : Describes bottom (rules.take i) r e) :
    Offends bottom rules i := by
  refine ⟨r, atPlace, ?_⟩
  cases described with
  | absorption breaks => exact .inl breaks
  | conflict respects before carried differs =>
      obtain ⟨e, member, concerns⟩ := before
      refine .inr ⟨e, member, fun agrees => differs ?_⟩
      exact (carried e member concerns).symm.trans (agrees concerns)

/-- The checks fail with the description of the first offence. -/
theorem checkRules_eq_error_iff {rules : List MeetRule} {e : BuildError} :
    checkRules bottom [] rules = .error e ↔
      ∃ i r, rules[i]? = some r ∧ FirstOffence bottom rules i ∧
        Describes bottom (rules.take i) r e := by
  simp only [checkRules_eq_error_iff_exists, List.append_nil]
  constructor
  · rintro ⟨before, r, after, rfl, passed, failed⟩
    have sound := checkRules_eq_ok_iff.1 passed
    have prefixed : (before ++ r :: after).take before.length = before := List.take_left
    have atPlace : (before ++ r :: after)[before.length]? = some r := by simp
    have described : Describes bottom ((before ++ r :: after).take before.length) r e := by
      rw [prefixed]
      exact (checkRule_reverse_eq_error_iff sound.2).1 failed
    refine ⟨before.length, r, atPlace, ⟨offends_of_describes atPlace described, ?_⟩, described⟩
    exact sound_take_iff.1 (prefixed.symm ▸ sound)
  · rintro ⟨i, r, atPlace, ⟨-, least⟩, described⟩
    have sound := sound_take_iff.2 least
    refine ⟨rules.take i, r, rules.drop (i + 1), ?_, checkRules_eq_ok_iff.2 sound,
      (checkRule_reverse_eq_error_iff sound.2).2 described⟩
    obtain ⟨inside, rfl⟩ := List.getElem?_eq_some_iff.1 atPlace
    rw [← List.drop_eq_getElem_cons inside, List.take_append_drop]

/-! ## The outcome -/

theorem bottom_of_build {b : Builder} {t : MeetTable} (built : b.build = .ok t) :
    t.bottom = b.bottom :=
  (b.build_eq_ok_iff.1 built).2.1

theorem sound_of_build {b : Builder} {t : MeetTable} (built : b.build = .ok t) :
    Sound b.bottom b.rules :=
  checkRules_eq_ok_iff.1 (b.build_eq_ok_iff.1 built).1

theorem exists_build_eq_ok_iff (b : Builder) :
    (∃ t, b.build = .ok t) ↔ b.bottom.text ≠ "" ∧ Sound b.bottom b.rules := by
  constructor
  · rintro ⟨t, built⟩
    exact ⟨bottom_of_build built ▸ t.bottom_text_ne, sound_of_build built⟩
  · rintro ⟨ne, sound⟩
    cases built : b.build with
    | ok t => exact ⟨t, rfl⟩
    | error e =>
        rcases b.build_eq_error_iff.1 built with ⟨empty, -⟩ | ⟨-, failed⟩
        · exact absurd empty ne
        · rw [checkRules_eq_ok_iff.2 sound] at failed
          cases failed

/-- The rules of a table are sound. -/
theorem sound_rules (t : MeetTable) : Sound t.bottom t.rules := by
  constructor
  · rintro r member ⟨left | right, -⟩
    · exact (t.avoids_bottom r member).1 left
    · exact (t.avoids_bottom r member).2.1 right
  · intro e he r hr same
    rw [← t.meet_of_mem he, ← t.meet_of_mem hr, same.1, same.2]

/-- Every table is built by its own bottom and rules. -/
theorem build_rules (t : MeetTable) : (Builder.mk t.bottom t.rules).build = .ok t := by
  have kept : (t.rules.filter fun r => r.result ≠ t.bottom) = t.rules :=
    List.filter_eq_self.2 fun r member => decide_eq_true (t.avoids_bottom r member).2.2
  refine (build_eq_ok_iff _).2 ⟨checkRules_eq_ok_iff.2 (sound_rules t), rfl, ?_⟩
  rw [kept, Ordered.ofList_of_ascending t.ascending]

/-- **What building comes to.**  Over the bottom set last and the directed rules in
order of definition, a build succeeds exactly when the bottom has a text, no rule
about it has another result, and rules about the same operands have one result.
It fails for an empty bottom, and otherwise with the description of the first
rule that breaks absorption or disagrees with an earlier one. -/
theorem build_ofSteps_outcome (steps : List BuildStep) :
    let bottom := BuildStep.lastBottom steps
    let rules := BuildStep.directedRules steps
    ((∃ t, (ofSteps steps).build = .ok t) ↔
      bottom.text ≠ "" ∧
      (∀ r ∈ rules, r.left = bottom ∨ r.right = bottom → r.result = bottom) ∧
      ∀ r ∈ rules, ∀ s ∈ rules, r.left = s.left → r.right = s.right → r.result = s.result) ∧
    ∀ e, (ofSteps steps).build = .error e ↔
      (bottom.text = "" ∧ e = .emptyBottom) ∨
      (bottom.text ≠ "" ∧ ∃ i r, rules[i]? = some r ∧ FirstOffence bottom rules i ∧
        Describes bottom (rules.take i) r e) := by
  intro bottom rules
  have sameBottom : (ofSteps steps).bottom = bottom := bottom_ofSteps steps
  have sameRules : (ofSteps steps).rules = rules := rules_ofSteps steps
  constructor
  · rw [exists_build_eq_ok_iff, sameBottom, sameRules]
    simp only [Sound, Agreeing, MeetRule.Agrees, MeetRule.BreaksAbsorption, MeetRule.Concerns,
      not_and, not_not, and_imp]
  · intro e
    rw [build_eq_error_iff, sameBottom, sameRules, checkRules_eq_error_iff]

/-- The bottom may come after the rules, and absorption goes before disagreement. -/
example :
    (ofSteps [.define ⟨"A"⟩ ⟨"B"⟩ ⟨"B"⟩, .define ⟨"A"⟩ ⟨"B"⟩ ⟨"A"⟩, .bottom ⟨"B"⟩]).build =
      .error (.bottomNotAbsorbing ⟨"A"⟩ ⟨"B"⟩ ⟨"A"⟩) :=
  rfl

end Builder

end Clearance

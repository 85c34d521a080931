/-
# Clearance.Proofs.ChainLevels -- which levels make a chain

`MeetTable.ofChain` promises a table for levels that are distinct and above bottom, and it
makes one for some others.  A level that stands next to itself defines its rules twice
and nothing else, and the bottom may come last, where whatever meets it is bottom anyway.
What is refused is a level that comes back after another one, because then either of the
two would have to be the lower one, and a level below bottom.

That these two are all follows from what makes the rules of a chain sound
(`exists_ofChain_eq_ok_iff_sound`).  The levels that are accepted and yet not distinct
could have been left out: the table is the same as long as each level above bottom stays
somewhere (`ofChain_of_sublist`), because the rules above bottom are
(`mem_chainRules_iff_of_stays`).  So it is the table of the distinct levels above bottom, in
their order (`collapsed`).

A chain may also be made from its directed rules, written out and defined one by one.  That
is the same builder in the end, rule for rule (`Builder.foldl_define_chainRules`), and so the
same table or the same error (`chain_constructions_agree`).
-/
import Mathlib.Data.List.Dedup
import Clearance.Proofs.ChainRules
import Clearance.Proofs.DefinitionOrder

namespace Clearance

set_option autoImplicit false

/-- The levels but the default bottom, each of them once. -/
def collapsed (levels : List Label) : List Label :=
  (levels.filter (· ≠ .defaultBottom)).dedup

variable {bottom : Label} {levels short : List Label}

/-- The rules with a result above bottom all stay if each level above bottom does. -/
theorem mem_chainRules_iff_of_stays (sound : Builder.Sound bottom (chainRules levels))
    (sub : short.Sublist levels) (stays : ∀ l ∈ levels, l ≠ bottom → l ∈ short) {r : MeetRule}
    (above : r.result ≠ bottom) : r ∈ chainRules short ↔ r ∈ chainRules levels := by
  refine ⟨mem_chainRules_of_sublist sub, fun rule => ?_⟩
  obtain ⟨left, right, -⟩ := mem_of_mem_chainRules rule
  have avoids := MeetRule.avoids_of_absorption (sound.1 r rule) above
  obtain ⟨m, again⟩ := exists_mem_chainRules (stays _ left avoids.1) (stays _ right avoids.2.1)
  -- operands that stay have a rule, and there is no other one for them
  have same : m = r.result := sound.2 _ (mem_chainRules_of_sublist sub again) r rule ⟨rfl, rfl⟩
  rwa [same] at again

namespace MeetTable

variable {t : MeetTable}

theorem ofChain_eq_ok_iff :
    ofChain levels = .ok t ↔ (({} : Builder).defineChain levels).build = .ok t := by
  unfold ofChain
  cases (({} : Builder).defineChain levels).build <;> simp [Except.mapError]

theorem exists_ofChain_eq_ok_iff_sound :
    (∃ t, ofChain levels = .ok t) ↔ Builder.Sound .defaultBottom (chainRules levels) := by
  have named : Label.defaultBottom.text ≠ "" := by decide
  simp only [ofChain_eq_ok_iff]
  rw [Builder.exists_build_eq_ok_iff, Builder.rules_defineChain, Builder.bottom_defineChain]
  exact and_iff_right named

/-- Levels may be left out as long as each above bottom stays somewhere. -/
theorem ofChain_of_sublist (made : ofChain levels = .ok t) (sub : short.Sublist levels)
    (stays : ∀ l ∈ levels, l ≠ .defaultBottom → l ∈ short) : ofChain short = .ok t := by
  have sound := exists_ofChain_eq_ok_iff_sound.1 ⟨t, made⟩
  have still : Builder.Sound .defaultBottom (chainRules short) :=
    Builder.sound_of_subset sound fun r => mem_chainRules_of_sublist sub
  obtain ⟨u, remade⟩ := exists_ofChain_eq_ok_iff_sound.2 still
  have same : u = t := by
    refine Builder.table_unique ?_ ?_ (ofChain_eq_ok_iff.1 remade) (ofChain_eq_ok_iff.1 made)
    · rw [Builder.bottom_defineChain, Builder.bottom_defineChain]
    · intro r above
      rw [Builder.bottom_defineChain] at above
      rw [Builder.rules_defineChain, Builder.rules_defineChain]
      exact mem_chainRules_iff_of_stays sound sub stays above
  rwa [same] at remade

/-- **Which levels make a chain.**  `ofChain` makes a table exactly when behind the
default bottom there is only bottom, and between two places of a label no other one.  Levels
then may repeat and bottom may be among them, but neither makes a difference: the table is
that of the levels above bottom, each of them once, and of all levels less any places that
leave each of these a place. -/
theorem ofChain_accepts_exactly (levels : List Label) :
    ((∃ t, ofChain levels = .ok t) ↔ BottomLast .defaultBottom levels ∧ Contiguous levels) ∧
    ∀ t, ofChain levels = .ok t →
      ofChain (collapsed levels) = .ok t ∧ (collapsed levels).Nodup ∧
      .defaultBottom ∉ collapsed levels ∧
      ∀ short, short.Sublist levels → (∀ l ∈ levels, l ≠ .defaultBottom → l ∈ short) →
        ofChain short = .ok t := by
  have mem_collapsed : ∀ l, l ∈ collapsed levels ↔ l ∈ levels ∧ l ≠ .defaultBottom := by
    intro l
    rw [collapsed, List.mem_dedup, List.mem_filter, decide_eq_true_iff]
  refine ⟨exists_ofChain_eq_ok_iff_sound.trans sound_chainRules_iff, fun t made => ?_⟩
  refine ⟨?_, List.nodup_dedup _, ?_, fun short => ofChain_of_sublist made⟩
  · have sub : (collapsed levels).Sublist levels :=
      (List.dedup_sublist _).trans List.filter_sublist
    exact ofChain_of_sublist made sub fun l member above => (mem_collapsed l).2 ⟨member, above⟩
  · intro member
    exact ((mem_collapsed _).1 member).2 rfl

/-- Levels that repeat and end in bottom, twice. -/
def repeating : List Label :=
  [⟨"ROOT"⟩, ⟨"ROOT"⟩, ⟨"LOCAL"⟩, ⟨"BOTTOM"⟩, ⟨"BOTTOM"⟩]

/-- They make the chain of two levels, with a bottom left at its end or not. -/
theorem repeating_makes_two_levels :
    BottomLast .defaultBottom repeating ∧ Contiguous repeating ∧
    ∃ t, ofChain repeating = .ok t ∧ ofChain [⟨"ROOT"⟩, ⟨"LOCAL"⟩] = .ok t ∧
      ofChain [⟨"ROOT"⟩, ⟨"LOCAL"⟩, ⟨"BOTTOM"⟩] = .ok t := by
  obtain ⟨accepted, alike⟩ := ofChain_accepts_exactly repeating
  have made : ∃ t, ofChain repeating = .ok t := ⟨_, rfl⟩
  obtain ⟨last, contiguous⟩ := accepted.1 made
  obtain ⟨t, made⟩ := made
  obtain ⟨distinct, -, -, shorter⟩ := alike t made
  have collapses : collapsed repeating = [⟨"ROOT"⟩, ⟨"LOCAL"⟩] := by decide
  rw [collapses] at distinct
  exact ⟨last, contiguous, t, made, distinct, shorter _ (by decide) (by decide)⟩

/-- A level that comes back, and one below bottom. -/
example :
    ofChain [⟨"ROOT"⟩, ⟨"LOCAL"⟩, ⟨"ROOT"⟩] =
      .error ⟨"chain levels must be distinct and non-bottom",
        .conflictingDefinition ⟨"LOCAL"⟩ ⟨"ROOT"⟩ ⟨"LOCAL"⟩ ⟨"ROOT"⟩⟩ ∧
    ofChain [⟨"BOTTOM"⟩, ⟨"LOCAL"⟩] =
      .error ⟨"chain levels must be distinct and non-bottom",
        .bottomNotAbsorbing ⟨"BOTTOM"⟩ ⟨"LOCAL"⟩ ⟨"LOCAL"⟩⟩ :=
  ⟨rfl, rfl⟩

end MeetTable

/-! ## Chains written out as directed rules -/

namespace Builder

theorem foldl_define (b : Builder) (rules : List MeetRule) :
    rules.foldl (fun b r => b.define r.left r.right r.result) b = ⟨b.bottom, b.rules ++ rules⟩ := by
  induction rules generalizing b with
  | nil => rw [List.foldl_nil, List.append_nil]
  | cons r rules ih => rw [List.foldl_cons, ih, bottom_define, rules_define, ← List.append_cons]

/-- The rules of a chain, defined one by one, come to the chain. -/
theorem foldl_define_chainRules (b : Builder) (levels : List Label) :
    (chainRules levels).foldl (fun b r => b.define r.left r.right r.result) b =
      b.defineChain levels := by
  rw [foldl_define, ← rules_defineChain, ← bottom_defineChain b levels]

end Builder

namespace MeetTable

/-- **Both ways to make a chain agree**, whatever the levels.  What is defined symmetrically
adds the rules that are written out, in their order, to those a builder has, and leaves the
same builder as defining these one by one.  So both ways make the same table, or both
fail for the same cause. -/
theorem chain_constructions_agree (levels : List Label) :
    (∀ b : Builder, (b.defineChain levels).rules = b.rules ++ chainRules levels ∧
      (chainRules levels).foldl (fun b r => b.define r.left r.right r.result) b =
        b.defineChain levels) ∧
    ((∃ t, ofChain levels = .ok t ∧ ofChainRules levels = .ok t) ∨
      ∃ cause,
        ofChain levels = .error ⟨"chain levels must be distinct and non-bottom", cause⟩ ∧
        ofChainRules levels = .error ⟨"generated entries are well-formed", cause⟩) := by
  refine ⟨fun b => ⟨b.rules_defineChain levels, b.foldl_define_chainRules levels⟩, ?_⟩
  rw [ofChainRules, ofDirected, Builder.foldl_define_chainRules, ofChain]
  cases (({} : Builder).defineChain levels).build with
  | ok t => exact .inl ⟨t, rfl, rfl⟩
  | error cause => exact .inr ⟨cause, rfl, rfl⟩

end MeetTable

end Clearance

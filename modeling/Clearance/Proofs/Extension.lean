/-
# Clearance.Proofs.Extension -- more definitions never revoke anything

A builder that is given further rules decides all that it had decided before.
If it had failed, it fails in the same way, because the checks run in order and
stop at the first offence.  If it had built a table, and does so again, the new
table has the bottom and all rules of the old one (`MeetTable.Extends`), and then

* a meet above bottom is the same in both (`meet_of_extends`);
* so is a fold above bottom: to end there it has been there at every step, and
  each step was a meet above bottom (`foldl_of_extends`, `meetAll_of_extends`);
* a decision to allow stands, in either mode (`allow_of_extends`).

What the old table met to bottom says nothing: the new rules may raise it.
-/
import Clearance.Proofs.FailClosed
import Clearance.Proofs.Meaning

namespace Clearance

set_option autoImplicit false

namespace MeetTable

/-- `u` has the bottom of `t` and all its rules. -/
structure Extends (u t : MeetTable) : Prop where
  bottom : u.bottom = t.bottom
  rules : ∀ r ∈ t.rules, r ∈ u.rules

variable {t u : MeetTable}

/-! ## Meets, folds and decisions of a table that extends another -/

theorem meet_of_extends (ext : u.Extends t) {a b : Label} (above : t.meet a b ≠ t.bottom) :
    u.meet a b = t.meet a b := by
  have stored : ⟨a, b, t.meet a b⟩ ∈ t.rules := t.rule_of_meet_ne_bottom above
  exact u.meet_of_mem (ext.rules _ stored)

theorem foldl_of_extends (ext : u.Extends t) {start : Label} {ls : List Label}
    (above : ls.foldl t.meet start ≠ t.bottom) : ls.foldl u.meet start = ls.foldl t.meet start := by
  -- along the fold, each step is above bottom because the end is
  induction ls generalizing start with
  | nil => rfl
  | cons l ls ih =>
      have step : t.meet start l ≠ t.bottom := t.ne_bottom_of_foldl above
      rw [List.foldl_cons, List.foldl_cons, meet_of_extends ext step]
      exact ih above

theorem meetAll_of_extends (ext : u.Extends t) {ls : List Label}
    (above : t.meetAll ls ≠ t.bottom) : u.meetAll ls = t.meetAll ls := by
  cases ls with
  | nil => exact absurd t.meetAll_nil above
  | cons l ls => exact foldl_of_extends ext above

theorem permits_of_extends (ext : u.Extends t) {ls : List Label}
    (permitted : t.permits ls = true) : u.permits ls = true := by
  rw [permits_iff] at permitted ⊢
  rwa [meetAll_of_extends ext permitted, ext.bottom]

theorem allow_of_extends (ext : u.Extends t) {c : Context} {request : Profile} {mode : Mode}
    (allowed : t.evaluate c request mode = .allow) : u.evaluate c request mode = .allow := by
  cases mode with
  | independent =>
      rw [evaluate_independent_eq_allow_iff] at allowed ⊢
      exact allowed.imp (permits_of_extends ext) (permits_of_extends ext)
  | pairwise =>
      rw [evaluate_pairwise_eq_allow_iff] at allowed ⊢
      obtain ⟨above, permitted⟩ := allowed
      have same : u.meetOn c request = t.meetOn c request :=
        funext fun d => meet_of_extends ext (above d)
      rw [same, ext.bottom]
      exact ⟨above, permits_of_extends ext permitted⟩

end MeetTable

namespace Builder

/-! ## Further rules -/

/-- The builder with further rules behind its own. -/
def extend (b : Builder) (more : List MeetRule) : Builder :=
  { b with rules := b.rules ++ more }

/-- Steps that set no bottom give the builder further rules. -/
theorem ofSteps_append (steps : List BuildStep) {more : List BuildStep}
    (noBottom : ∀ s ∈ more, s.bottom? = none) :
    ofSteps (steps ++ more) = (ofSteps steps).extend (BuildStep.directedRules more) := by
  have bottom := BuildStep.lastBottom_append steps noBottom
  have rules := BuildStep.directedRules_append steps more
  rw [← bottom_ofSteps, ← bottom_ofSteps] at bottom
  rw [← rules_ofSteps, ← rules_ofSteps] at rules
  rw [extend, ← bottom, ← rules]

variable {b : Builder} {more : List MeetRule}

/-- A build that fails does so again with further rules. -/
theorem build_extend_of_error {e : BuildError} (failed : b.build = .error e) :
    (b.extend more).build = .error e := by
  rw [build_eq_error_iff] at failed ⊢
  refine failed.imp_right fun ⟨ne, stopped⟩ => ⟨ne, ?_⟩
  rw [extend, checkRules_append, stopped]
  rfl

/-- A table built from further rules extends the one built without them. -/
theorem extends_of_build_extend {t u : MeetTable} (built : b.build = .ok t)
    (further : (b.extend more).build = .ok u) : u.Extends t where
  bottom := (bottom_of_build further).trans (bottom_of_build built).symm
  rules r stored := by
    obtain ⟨defined, above⟩ := (mem_rules_iff_of_build built).1 stored
    exact (mem_rules_iff_of_build further).2 ⟨List.mem_append_left more defined, above⟩

/-- **Extending a table never revokes anything.**  Steps that set no bottom, taken
after others, leave a failure as it is.  Where both build, meets and folds above
bottom stay the same, and what was allowed, in either mode, is allowed. -/
theorem extension_never_revokes (steps : List BuildStep) {more : List BuildStep}
    (noBottom : ∀ s ∈ more, s.bottom? = none) :
    (∀ e, (ofSteps steps).build = .error e → (ofSteps (steps ++ more)).build = .error e) ∧
    ∀ t u, (ofSteps steps).build = .ok t → (ofSteps (steps ++ more)).build = .ok u →
      (∀ a b, t.meet a b ≠ t.bottom → u.meet a b = t.meet a b) ∧
      (∀ ls, t.meetAll ls ≠ t.bottom → u.meetAll ls = t.meetAll ls) ∧
      ∀ c request mode, t.evaluate c request mode = .allow →
        u.evaluate c request mode = .allow := by
  rw [ofSteps_append steps noBottom]
  refine ⟨fun e failed => build_extend_of_error failed, fun t u built further => ?_⟩
  have ext : u.Extends t := extends_of_build_extend built further
  exact ⟨fun a b above => MeetTable.meet_of_extends ext above,
    fun ls above => MeetTable.meetAll_of_extends ext above,
    fun c request mode allowed => MeetTable.allow_of_extends ext allowed⟩

/-- `A` meets itself, and `B` only in this order. -/
def narrow : List BuildStep :=
  [.define ⟨"A"⟩ ⟨"A"⟩ ⟨"A"⟩, .define ⟨"A"⟩ ⟨"B"⟩ ⟨"A"⟩]

/-- `B` meets itself, and `A` in the order `narrow` leaves out. -/
def widening : List BuildStep :=
  [.defineSymmetric ⟨"B"⟩ ⟨"B"⟩ ⟨"B"⟩, .define ⟨"B"⟩ ⟨"A"⟩ ⟨"B"⟩]

/-- A table without laws keeps what it allows though a meet at bottom is raised, and
rules that disagreed still do. -/
theorem widening_never_revokes :
    (∃ u, (ofSteps (narrow ++ widening)).build = .ok u ∧
      MeetTable.oneSided.meet ⟨"B"⟩ ⟨"A"⟩ = u.bottom ∧ u.meet ⟨"B"⟩ ⟨"A"⟩ = ⟨"B"⟩ ∧
      u.meet ⟨"A"⟩ ⟨"B"⟩ = ⟨"A"⟩ ∧ u.meetAll [⟨"A"⟩, ⟨"B"⟩, ⟨"A"⟩] = ⟨"A"⟩ ∧
      u.evaluate ⟨.uniform ⟨"A"⟩⟩ (.uniform ⟨"B"⟩) .pairwise = .allow) ∧
    (ofSteps ([.define ⟨"A"⟩ ⟨"A"⟩ ⟨"B"⟩, .define ⟨"A"⟩ ⟨"A"⟩ ⟨"A"⟩] ++ widening)).build =
      .error (.conflictingDefinition ⟨"A"⟩ ⟨"A"⟩ ⟨"B"⟩ ⟨"A"⟩) := by
  have noBottom : ∀ s ∈ widening, s.bottom? = none := by decide
  obtain ⟨meets, folds, decisions⟩ :=
    (extension_never_revokes narrow noBottom).2 MeetTable.oneSided _ rfl rfl
  refine ⟨⟨_, rfl, rfl, rfl, ?_⟩, (extension_never_revokes _ noBottom).1 _ rfl⟩
  exact ⟨meets _ _ (by decide), folds _ (by decide), decisions _ _ _ (by decide)⟩

end Builder

end Clearance

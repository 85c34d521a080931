/-
# Clearance.Proofs.Reasons -- a decision has exactly one reason, the first that applies

A denial names one reason, and more than one may apply.  Which of them is named
depends on what is looked at first, and so does the label a fold comes to, because a
table need be neither commutative nor associative.

* Independent checks fold the context, and the request only if the context was
  consistent.  So the context has a say only as long as it is inconsistent: all
  consistent ones get the same decisions.
* Pairwise checks meet the context with the request, in this order of operands, on
  one dimension after the other, and name the first that meets to bottom.  The five
  meets are folded only if there is none.

`meetDimensions` writes a fold of five labels out, with its brackets.
-/
import Clearance.Proofs.FailClosed

namespace Clearance.MeetTable

set_option autoImplicit false

variable (t : MeetTable)

/-- The labels of five dimensions, met from the left in canonical order. -/
def meetDimensions (on : Dimension → Label) : Label :=
  t.meet (t.meet (t.meet (t.meet (on .host) (on .context)) (on .runtime)) (on .command))
    (on .financial)

theorem permits_map_all (on : Dimension → Label) :
    t.permits (Dimension.all.map on) = true ↔ t.meetDimensions on ≠ t.bottom := by
  rw [permits_iff]
  rfl

/-! ## Independent checks -/

theorem evaluate_independent_eq (c : Context) (request : Profile) :
    t.evaluate c request .independent =
      if t.meetDimensions c.get = t.bottom then .deny .contextInconsistent
      else if t.meetDimensions request.get = t.bottom then .deny .requestInconsistent
      else .allow := by
  have context := t.permits_map_all c.get
  have requested := t.permits_map_all request.get
  rw [evaluate_independent]
  show (if t.permits (Dimension.all.map c.get) = true then
      if t.permits (Dimension.all.map request.get) = true then Decision.allow
      else .deny .requestInconsistent
    else .deny .contextInconsistent) = _
  simp only [context, requested, ite_not]

theorem independent_reasons (c : Context) (request : Profile) :
    (t.evaluate c request .independent = .deny .contextInconsistent ↔
      t.meetDimensions c.get = t.bottom) ∧
    (t.evaluate c request .independent = .deny .requestInconsistent ↔
      t.meetDimensions c.get ≠ t.bottom ∧ t.meetDimensions request.get = t.bottom) ∧
    (t.evaluate c request .independent = .allow ↔
      t.meetDimensions c.get ≠ t.bottom ∧ t.meetDimensions request.get ≠ t.bottom) := by
  rw [evaluate_independent_eq]
  by_cases context : t.meetDimensions c.get = t.bottom
  · simp [context]
  · by_cases requested : t.meetDimensions request.get = t.bottom
    · simp [context, requested]
    · simp [context, requested]

/-- Consistent contexts get the same decisions. -/
theorem independent_eq_of_consistent {c d : Context} (hc : t.meetDimensions c.get ≠ t.bottom)
    (hd : t.meetDimensions d.get ≠ t.bottom) (request : Profile) :
    t.evaluate c request .independent = t.evaluate d request .independent := by
  rw [evaluate_independent_eq, evaluate_independent_eq, if_neg hc, if_neg hd]

/-! ## Pairwise checks -/

/-- The dimension named is the first on which context and request meet to bottom. -/
theorem insufficient?_eq_some_iff (c : Context) (request : Profile) (d : Dimension) :
    t.insufficient? c request = some d ↔
      t.meetOn c request d = t.bottom ∧
        ∀ e, e.index < d.index → t.meetOn c request e ≠ t.bottom := by
  simp only [insufficient?, Dimension.find?_all_eq_some_iff, decide_eq_true_eq,
    decide_eq_false_iff_not]

theorem pairwise_reasons (c : Context) (request : Profile) :
    (∀ d, t.evaluate c request .pairwise = .deny (.dimensionInsufficient d) ↔
      t.meetOn c request d = t.bottom ∧
        ∀ e, e.index < d.index → t.meetOn c request e ≠ t.bottom) ∧
    (t.evaluate c request .pairwise = .deny .combinedInsufficient ↔
      (∀ d, t.meetOn c request d ≠ t.bottom) ∧
        t.meetDimensions (t.meetOn c request) = t.bottom) ∧
    (t.evaluate c request .pairwise = .allow ↔
      (∀ d, t.meetOn c request d ≠ t.bottom) ∧
        t.meetDimensions (t.meetOn c request) ≠ t.bottom) := by
  have folded := t.permits_map_all (t.meetOn c request)
  simp only [← insufficient?_eq_some_iff, ← insufficient?_eq_none_iff, evaluate_pairwise]
  cases t.insufficient? c request with
  | some first => simp
  | none =>
      by_cases combined : t.meetDimensions (t.meetOn c request) = t.bottom
      · simp [folded, combined]
      · simp [folded, combined]

/-! ## Both modes -/

/-- **Every decision has the reason it deserves.**  Independently, the context is
named when its five labels fold to bottom, the request when the context's do not and its
own do, and nothing else is denied; consistent contexts are interchangeable.  Pairwise,
a dimension is named when context and request meet to bottom on it and on none
before it, the combination when they meet above bottom on all five and the five meets
fold to bottom, and nothing else is denied.  What may be executed is what is allowed,
and where no mode is asked for, what is allowed independently. -/
theorem decisions_have_exact_reasons (c : Context) (request : Profile) :
    ((t.evaluate c request .independent = .deny .contextInconsistent ↔
        t.meetDimensions c.get = t.bottom) ∧
      (t.evaluate c request .independent = .deny .requestInconsistent ↔
        t.meetDimensions c.get ≠ t.bottom ∧ t.meetDimensions request.get = t.bottom) ∧
      (t.evaluate c request .independent = .allow ↔
        t.meetDimensions c.get ≠ t.bottom ∧ t.meetDimensions request.get ≠ t.bottom) ∧
      ∀ other : Context, t.meetDimensions c.get ≠ t.bottom →
        t.meetDimensions other.get ≠ t.bottom →
        t.evaluate other request .independent = t.evaluate c request .independent) ∧
    ((∀ d, t.evaluate c request .pairwise = .deny (.dimensionInsufficient d) ↔
        t.meet (c.get d) (request.get d) = t.bottom ∧
          ∀ e, e.index < d.index → t.meet (c.get e) (request.get e) ≠ t.bottom) ∧
      (t.evaluate c request .pairwise = .deny .combinedInsufficient ↔
        (∀ d, t.meet (c.get d) (request.get d) ≠ t.bottom) ∧
          t.meetDimensions (fun d => t.meet (c.get d) (request.get d)) = t.bottom) ∧
      (t.evaluate c request .pairwise = .allow ↔
        (∀ d, t.meet (c.get d) (request.get d) ≠ t.bottom) ∧
          t.meetDimensions (fun d => t.meet (c.get d) (request.get d)) ≠ t.bottom)) ∧
    (∀ mode, t.canExecute c request mode = true ↔ t.evaluate c request mode = .allow) ∧
    (t.canExecuteByDefault c request = true ↔ t.evaluate c request .independent = .allow) := by
  obtain ⟨contextDenied, requestDenied, allowed⟩ := t.independent_reasons c request
  have executed : ∀ mode, t.canExecute c request mode = true ↔
      t.evaluate c request mode = .allow := by
    intro mode
    rw [canExecute_eq, Decision.isAllowed_iff]
  refine ⟨⟨contextDenied, requestDenied, allowed, ?_⟩, t.pairwise_reasons c request, executed,
    executed .independent⟩
  intro other consistent otherConsistent
  exact t.independent_eq_of_consistent otherConsistent consistent request

/-- Two contexts that are consistent, and differ on one dimension. -/
theorem oneSided_contexts_interchangeable :
    (oneSided.meetDimensions (Context.get ⟨.uniform ⟨"A"⟩⟩) ≠ oneSided.bottom ∧
      oneSided.meetDimensions (Context.get ⟨(Profile.uniform ⟨"A"⟩).set .financial ⟨"B"⟩⟩) ≠
        oneSided.bottom) ∧
    ∀ request, oneSided.evaluate ⟨(Profile.uniform ⟨"A"⟩).set .financial ⟨"B"⟩⟩ request
        .independent =
      oneSided.evaluate ⟨.uniform ⟨"A"⟩⟩ request .independent := by
  have consistent : oneSided.meetDimensions (Context.get ⟨.uniform ⟨"A"⟩⟩) ≠ oneSided.bottom := by
    decide
  have other : oneSided.meetDimensions
      (Context.get ⟨(Profile.uniform ⟨"A"⟩).set .financial ⟨"B"⟩⟩) ≠ oneSided.bottom := by
    decide
  refine ⟨⟨consistent, other⟩, fun request => ?_⟩
  obtain ⟨⟨-, -, -, interchangeable⟩, -⟩ :=
    oneSided.decisions_have_exact_reasons ⟨.uniform ⟨"A"⟩⟩ request
  exact interchangeable _ consistent other

/-- The order of the labels counts: `B` meets `A` to bottom. -/
example : oneSided.evaluate ⟨(Profile.uniform ⟨"A"⟩).set .host ⟨"B"⟩⟩ (.uniform ⟨"A"⟩)
    .independent = .deny .contextInconsistent := by
  decide

end Clearance.MeetTable

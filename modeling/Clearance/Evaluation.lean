/-
# Clearance.Evaluation -- deciding a context against a request

`evaluate` answers whether a context may execute what a request requires.

* Independently, the five labels of the context must meet above bottom, and
  then the five of the request.  The two are never compared.
* Pairwise, context and request must meet above bottom on each dimension, the
  first that fails being the reason, and then the five meets together.

Each fold of a list is an event, and so is the decision after its folds; the
search for an insufficient dimension folds nothing.

`canExecute` asks only whether the answer is to allow, in a mode that is given;
`canExecuteByDefault` leaves the mode open, which is to check independently.
-/
import Clearance.Profile
import Clearance.MeetTable.Recorded

namespace Clearance

set_option autoImplicit false

namespace MeetTable

/-- The meet of context and request on one dimension. -/
def meetOn (t : MeetTable) (c : Context) (request : Profile) (d : Dimension) : Label :=
  t.meet (c.get d) (request.get d)

/-- The first dimension on which context and request meet to bottom. -/
def insufficient? (t : MeetTable) (c : Context) (request : Profile) : Option Dimension :=
  Dimension.all.find? fun d => t.meetOn c request d = t.bottom

/-- Context and request are each consistent by themselves. -/
def independentDenial (t : MeetTable) (c : Context) (request : Profile) :
    Logged (Option Denial) := do
  if !(← t.permitsLogged c.labels) then
    return some .contextInconsistent
  if !(← t.permitsLogged request.labels) then
    return some .requestInconsistent
  return none

/-- Context and request meet on every dimension, and those meets together. -/
def pairwiseDenial (t : MeetTable) (c : Context) (request : Profile) :
    Logged (Option Denial) :=
  match t.insufficient? c request with
  | some d => return some (.dimensionInsufficient d)
  | none => do
      if !(← t.permitsLogged (Dimension.all.map (t.meetOn c request))) then
        return some .combinedInsufficient
      return none

/-- Decide a context against a request, with the events of the decision. -/
def evaluateLogged (t : MeetTable) (c : Context) (request : Profile) (mode : Mode) :
    Logged Decision := do
  let denial ← match mode with
    | .independent => t.independentDenial c request
    | .pairwise => t.pairwiseDenial c request
  Logged.emit (.decided t.bottom mode denial)
  return .ofDenial? denial

/-- Decide a context against a request. -/
def evaluate (t : MeetTable) (c : Context) (request : Profile) (mode : Mode) : Decision :=
  (t.evaluateLogged c request mode).answer

/-- Whether a context may execute a request in some mode. -/
def canExecuteLogged (t : MeetTable) (c : Context) (request : Profile) (mode : Mode) :
    Logged Bool := do
  return (← t.evaluateLogged c request mode).isAllowed

def canExecute (t : MeetTable) (c : Context) (request : Profile) (mode : Mode) : Bool :=
  (t.canExecuteLogged c request mode).answer

/-- Whether a context may execute a request where no mode is asked for: each of the two is
checked by itself. -/
def canExecuteByDefaultLogged (t : MeetTable) (c : Context) (request : Profile) : Logged Bool :=
  t.canExecuteLogged c request .independent

def canExecuteByDefault (t : MeetTable) (c : Context) (request : Profile) : Bool :=
  (t.canExecuteByDefaultLogged c request).answer

theorem evaluate_independent (t : MeetTable) (c : Context) (request : Profile) :
    t.evaluate c request .independent =
      if t.permits c.labels then
        if t.permits request.labels then .allow else .deny .requestInconsistent
      else .deny .contextInconsistent := by
  cases hc : t.permits c.labels <;> cases hr : t.permits request.labels <;>
    simp [evaluate, evaluateLogged, independentDenial, hc, hr, Decision.ofDenial?]

theorem evaluate_pairwise (t : MeetTable) (c : Context) (request : Profile) :
    t.evaluate c request .pairwise =
      match t.insufficient? c request with
      | some d => .deny (.dimensionInsufficient d)
      | none =>
          if t.permits (Dimension.all.map (t.meetOn c request)) then .allow
          else .deny .combinedInsufficient := by
  cases hd : t.insufficient? c request with
  | some d => simp [evaluate, evaluateLogged, pairwiseDenial, hd, Decision.ofDenial?]
  | none =>
      cases hp : t.permits (Dimension.all.map (t.meetOn c request)) <;>
        simp [evaluate, evaluateLogged, pairwiseDenial, hd, hp, Decision.ofDenial?]

/-- Independent checks allow when both folds stay above bottom. -/
theorem evaluate_independent_eq_allow_iff (t : MeetTable) (c : Context) (request : Profile) :
    t.evaluate c request .independent = .allow ↔
      t.permits c.labels = true ∧ t.permits request.labels = true := by
  rw [evaluate_independent]
  cases t.permits c.labels <;> cases t.permits request.labels <;> simp

theorem insufficient?_eq_none_iff (t : MeetTable) (c : Context) (request : Profile) :
    t.insufficient? c request = none ↔ ∀ d, t.meetOn c request d ≠ t.bottom := by
  simp only [insufficient?, List.find?_eq_none, decide_eq_true_eq]
  exact ⟨fun above d => above d (Dimension.mem_all d), fun above d _ => above d⟩

/-- Pairwise checks allow when every dimension meets above bottom and the five
meets do so together. -/
theorem evaluate_pairwise_eq_allow_iff (t : MeetTable) (c : Context) (request : Profile) :
    t.evaluate c request .pairwise = .allow ↔
      (∀ d, t.meetOn c request d ≠ t.bottom) ∧
        t.permits (Dimension.all.map (t.meetOn c request)) = true := by
  rw [evaluate_pairwise, ← insufficient?_eq_none_iff]
  cases t.insufficient? c request with
  | some d => simp
  | none => cases t.permits (Dimension.all.map (t.meetOn c request)) <;> simp

theorem canExecute_eq (t : MeetTable) (c : Context) (request : Profile) (mode : Mode) :
    t.canExecute c request mode = (t.evaluate c request mode).isAllowed :=
  rfl

end MeetTable

end Clearance

/-
# Clearance.Proofs.Admission -- a request is checked, looked up and decided

An admission runs three stages, each of which may end it: the check of the request,
the look-up of what its command requires, and the decision.  Seen from outside these
are four cases (`Outcome`), told apart by the name, the form of the arguments and
the validator in this order, and every admission ends in one of them
(`answer_admission_eq_iff`).

The stages do not get in each other's way.  The second looks up a name that the
first has found, so it does not fail (`requirement_of_valid`).  What the first
reports is passed on as it is (`answer_admission_of_invalid`), and after it nothing
fails, so that a denial is an answer and no error (`answer_admission_of_valid`).

Of the registry an admission sees one name only (`admission_congr`).
-/
import Clearance.Gatekeeper

namespace Clearance

open Clearance.Json

set_option autoImplicit false

variable {ρ σ : Type} [CommandSource ρ] [CommandSource σ]

/-! ## Checking a request -/

section

variable {source : ρ} {validator : ArgsValidator} {name : String} {args : Value} {entry : Entry}

theorem answer_validateLogged_of_absent (absent : CommandSource.get? source name = none) :
    (validateLogged source validator name args).answer = .error (.unknownCommand name) := by
  rw [validateLogged, absent]
  rfl

theorem answer_validateLogged_of_object (found : CommandSource.get? source name = some entry)
    {members : List (String × Value)} (object : args = .object members) :
    (validateLogged source validator name args).answer = validator entry members := by
  rw [validateLogged, found, object]
  rfl

theorem answer_validateLogged_of_not_object (found : CommandSource.get? source name = some entry)
    (other : args.kind ≠ .object) :
    (validateLogged source validator name args).answer =
      .error (.argsNotObject args.kind.name) := by
  rw [validateLogged, found]
  cases args with
  | object members => exact absurd rfl other
  | _ => rfl

theorem requirement_of_found (found : CommandSource.get? source name = some entry) :
    requirement source name = .ok entry.required := by
  rw [requirement, found]

/-- A name that passed the check has an entry. -/
theorem found_of_valid (valid : (validateLogged source validator name args).answer = .ok ()) :
    ∃ entry, CommandSource.get? source name = some entry := by
  cases found : CommandSource.get? source name with
  | none =>
      rw [answer_validateLogged_of_absent found] at valid
      cases valid
  | some entry => exact ⟨entry, rfl⟩

/-- So the look-up after a check that passed does not fail. -/
theorem requirement_of_valid
    (valid : (validateLogged source validator name args).answer = .ok ()) :
    ∃ request, requirement source name = .ok request := by
  obtain ⟨entry, found⟩ := found_of_valid valid
  exact ⟨entry.required, requirement_of_found found⟩

end

namespace Gatekeeper

/-! ## The stages of an admission -/

section

variable {g : Gatekeeper ρ} {c : Context} {name : String} {args : Value}

theorem answer_admission_of_invalid {cause : RegistryError}
    (invalid : (validateLogged g.source g.validator name args).answer = .error cause) :
    (g.admission c name args).answer = .error (.registry cause) := by
  have stopped : (g.validate name args).answer = .error (.registry cause) :=
    congrArg (Except.mapError Error.registry) invalid
  simp only [admission, Logged.answer_bind, stopped, Logged.answer_pure]

theorem answer_admission_of_valid {request : Profile}
    (valid : (validateLogged g.source g.validator name args).answer = .ok ())
    (required : requirement g.source name = .ok request) :
    (g.admission c name args).answer = .ok (g.table.evaluate c request g.mode) := by
  have passed : (g.validate name args).answer = .ok () :=
    congrArg (Except.mapError Error.registry) valid
  have found : g.required name = .ok request := congrArg (Except.mapError Error.registry) required
  have decided : (g.decision c request).answer = g.table.evaluate c request g.mode := rfl
  simp only [admission, Logged.answer_bind, passed, found, decided]
  -- a denial is recorded and then returned as any decision
  cases g.table.evaluate c request g.mode <;> rfl

/-- The errors are those of the check. -/
theorem answer_admission_eq_error_iff {e : Error} :
    (g.admission c name args).answer = .error e ↔
      ∃ cause, e = .registry cause ∧
        (validateLogged g.source g.validator name args).answer = .error cause := by
  constructor
  · intro failed
    cases checked : (validateLogged g.source g.validator name args).answer with
    | error cause =>
        rw [answer_admission_of_invalid checked] at failed
        cases failed
        exact ⟨cause, rfl, rfl⟩
    | ok _ =>
        obtain ⟨request, required⟩ := requirement_of_valid checked
        rw [answer_admission_of_valid checked required] at failed
        cases failed
  · rintro ⟨cause, rfl, invalid⟩
    exact answer_admission_of_invalid invalid

/-- The answers are the decisions about what is required, after a check that passed. -/
theorem answer_admission_eq_ok_iff {d : Decision} :
    (g.admission c name args).answer = .ok d ↔
      (validateLogged g.source g.validator name args).answer = .ok () ∧
        ∃ request, requirement g.source name = .ok request ∧
          g.table.evaluate c request g.mode = d := by
  constructor
  · intro answered
    cases checked : (validateLogged g.source g.validator name args).answer with
    | error cause =>
        rw [answer_admission_of_invalid checked] at answered
        cases answered
    | ok _ =>
        obtain ⟨request, required⟩ := requirement_of_valid checked
        rw [answer_admission_of_valid checked required] at answered
        exact ⟨rfl, request, required, Except.ok.inj answered⟩
  · rintro ⟨valid, request, required, rfl⟩
    exact answer_admission_of_valid valid required

end

/-! ## The cases of an admission -/

/-- What becomes of a request.  The first that has something against it answers: the
registry, which may not have the name, the form of the arguments, or their validator.
What passes is decided. -/
inductive Outcome (g : Gatekeeper ρ) (c : Context) (name : String) (args : Value) :
    Except Error Decision → Prop
  | unknown (absent : CommandSource.get? g.source name = none) :
      Outcome g c name args (.error (.registry (.unknownCommand name)))
  | notObject {entry : Entry} (found : CommandSource.get? g.source name = some entry)
      (other : args.kind ≠ .object) :
      Outcome g c name args (.error (.registry (.argsNotObject args.kind.name)))
  | rejected {entry : Entry} {members : List (String × Value)} {cause : RegistryError}
      (found : CommandSource.get? g.source name = some entry) (object : args = .object members)
      (rejects : g.validator entry members = .error cause) :
      Outcome g c name args (.error (.registry cause))
  | decided {entry : Entry} {members : List (String × Value)}
      (found : CommandSource.get? g.source name = some entry) (object : args = .object members)
      (accepts : g.validator entry members = .ok ()) :
      Outcome g c name args (.ok (g.table.evaluate c entry.required g.mode))

variable (g : Gatekeeper ρ) (c : Context) (name : String) (args : Value)

theorem outcome_admission : g.Outcome c name args (g.admission c name args).answer := by
  cases found : CommandSource.get? g.source name with
  | none =>
      rw [answer_admission_of_invalid (answer_validateLogged_of_absent found)]
      exact .unknown found
  | some entry =>
      by_cases object : args.kind = .object
      · cases args with
        | object members =>
            cases verdict : g.validator entry members with
            | error cause =>
                have checked := (answer_validateLogged_of_object found rfl).trans verdict
                rw [answer_admission_of_invalid checked]
                exact .rejected found rfl verdict
            | ok _ =>
                have checked := (answer_validateLogged_of_object found rfl).trans verdict
                rw [answer_admission_of_valid checked (requirement_of_found found)]
                exact .decided found rfl verdict
        | _ => cases object
      · rw [answer_admission_of_invalid (answer_validateLogged_of_not_object found object)]
        exact .notObject found object

/-- The cases do not overlap, and one of them always applies. -/
theorem answer_admission_eq_iff {r : Except Error Decision} :
    (g.admission c name args).answer = r ↔ g.Outcome c name args r := by
  constructor
  · rintro rfl
    exact g.outcome_admission c name args
  · intro outcome
    cases outcome with
    | unknown absent => exact answer_admission_of_invalid (answer_validateLogged_of_absent absent)
    | notObject found other =>
        exact answer_admission_of_invalid (answer_validateLogged_of_not_object found other)
    | rejected found object rejects =>
        have checked := (answer_validateLogged_of_object found object).trans rejects
        exact answer_admission_of_invalid checked
    | decided found object accepts =>
        have checked := (answer_validateLogged_of_object found object).trans accepts
        exact answer_admission_of_valid checked (requirement_of_found found)

/-- **An admission is a check, a look-up and a decision.**  It ends in the one case that
applies.  After a check that passed the look-up does not fail; the errors are those of
the check, passed on as errors of the registry; and the answers are the decisions about
what the look-up gave, after a check that passed. -/
theorem admission_checks_then_decides :
    (∀ r, (g.admission c name args).answer = r ↔ g.Outcome c name args r) ∧
    ((validateLogged g.source g.validator name args).answer = .ok () →
      ∃ request, requirement g.source name = .ok request) ∧
    (∀ e, (g.admission c name args).answer = .error e ↔
      ∃ cause, e = .registry cause ∧
        (validateLogged g.source g.validator name args).answer = .error cause) ∧
    ∀ d, (g.admission c name args).answer = .ok d ↔
      (validateLogged g.source g.validator name args).answer = .ok () ∧
        ∃ request, requirement g.source name = .ok request ∧
          g.table.evaluate c request g.mode = d :=
  ⟨fun _ => g.answer_admission_eq_iff c name args, requirement_of_valid,
    fun _ => answer_admission_eq_error_iff, fun _ => answer_admission_eq_ok_iff⟩

/-- Gates that differ only in what their sources say of other names admit alike, with
the same events. -/
theorem admission_congr {g : Gatekeeper ρ} {h : Gatekeeper σ} (table : g.table = h.table)
    (mode : g.mode = h.mode) (validator : g.validator = h.validator)
    (same : CommandSource.get? g.source name = CommandSource.get? h.source name) :
    g.admission c name args = h.admission c name args := by
  have checked : g.validate name args = h.validate name args := by
    rw [validate, validate, validateLogged, validateLogged, same, validator]
  have required : g.required name = h.required name := by
    rw [Gatekeeper.required, Gatekeeper.required, requirement, requirement, same]
  have decision : g.decision c = h.decision c := by
    funext request
    rw [Gatekeeper.decision, Gatekeeper.decision, table, mode]
  rw [admission, admission, checked, required, decision]

end Gatekeeper

end Clearance

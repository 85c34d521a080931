/-
# Clearance.Proofs.AdmissionEvents -- what is recorded of an admission tells how it ended

Each stage of an admission records its own events, and the record is theirs in order:

* the check records a name it does not know, and nothing else (`events_validateLogged_of_found`).
  The look-up records nothing, and neither does a validator, which only answers;
* the decision records its folds, each with what was folded to, and then itself
  (`events_evaluateLogged`).  What is folded depends on how far it gets (`foldedMeets`): the
  request only after a context above bottom, the five meets of context and request only
  where none of them is bottom;
* a denial is recorded last, with the reason that is answered.

An admission that fails does so before it decides, so that its record has no decision, no
fold and no denial.  Hence a denial is recorded exactly when one is answered
(`admissionDenied_mem_events_iff`).

`Transcript` has the record as it is shown: level, message and fields of each event.
-/
import Clearance.Proofs.Admission
import Clearance.Proofs.Reasons
import Clearance.Reference.Fixture

namespace Clearance

open Clearance.Json

set_option autoImplicit false

/-- An event as it is shown. -/
structure Line where
  level : Level
  message : String
  fields : List (String × FieldValue)
deriving DecidableEq

def Event.line (e : Event) : Line :=
  ⟨e.level, e.message, e.fields⟩

/-- The message of a denied admission is that of no other event. -/
theorem Event.message_eq_denied_iff {e : Event} :
    e.message = "admission denied" ↔ ∃ command reason, e = .admissionDenied command reason := by
  cases e <;> simp [Event.message]

/-! ## The events of a decision -/

namespace MeetTable

variable (t : MeetTable) (c : Context) (request : Profile)

/-- What a decision folds lists of labels to, one after the other. -/
def foldedMeets : Mode → List Label
  | .independent =>
      if t.meetAll c.labels = t.bottom then [t.meetAll c.labels]
      else [t.meetAll c.labels, t.meetAll request.labels]
  | .pairwise =>
      if ∃ d ∈ Dimension.all, t.meetOn c request d = t.bottom then []
      else [t.meetAll (Dimension.all.map (t.meetOn c request))]

theorem events_permitsLogged (ls : List Label) :
    (t.permitsLogged ls).events = [.labelsFolded t.bottom (t.meetAll ls)] :=
  rfl

theorem events_independentDenial :
    (t.independentDenial c request).events =
      (t.foldedMeets c request .independent).map (.labelsFolded t.bottom) := by
  by_cases context : t.meetAll c.labels = t.bottom
  · simp [independentDenial, foldedMeets, events_permitsLogged, permits, context]
  · by_cases requested : t.meetAll request.labels = t.bottom <;>
      simp [independentDenial, foldedMeets, events_permitsLogged, permits, context, requested]

theorem events_pairwiseDenial :
    (t.pairwiseDenial c request).events =
      (t.foldedMeets c request .pairwise).map (.labelsFolded t.bottom) := by
  cases first : t.insufficient? c request with
  | some d =>
      have insufficient : ∃ d ∈ Dimension.all, t.meetOn c request d = t.bottom :=
        ⟨d, Dimension.mem_all d, ((t.insufficient?_eq_some_iff c request d).1 first).1⟩
      rw [pairwiseDenial, first, foldedMeets, if_pos insufficient]
      rfl
  | none =>
      have sufficient : ¬ ∃ d ∈ Dimension.all, t.meetOn c request d = t.bottom := by
        rintro ⟨d, -, atBottom⟩
        exact (t.insufficient?_eq_none_iff c request).1 first d atBottom
      rw [pairwiseDenial, first, foldedMeets, if_neg sufficient]
      cases permitted : t.permits (Dimension.all.map (t.meetOn c request)) <;>
        simp [events_permitsLogged, permitted]

/-- A decision records its folds and then itself. -/
theorem events_evaluateLogged (mode : Mode) :
    (t.evaluateLogged c request mode).events =
      (t.foldedMeets c request mode).map (.labelsFolded t.bottom) ++
        [.decided t.bottom mode (t.evaluate c request mode).denial?] := by
  cases mode with
  | independent => simp [evaluate, evaluateLogged, events_independentDenial]
  | pairwise => simp [evaluate, evaluateLogged, events_pairwiseDenial]

end MeetTable

variable {ρ : Type} [CommandSource ρ]

/-! ## The events of a check -/

/-- Where the name is known, the check records nothing, whatever it comes to. -/
theorem events_validateLogged_of_found {source : ρ} {validator : ArgsValidator} {name : String}
    {entry : Entry} (found : CommandSource.get? source name = some entry) (args : Value) :
    (validateLogged source validator name args).events = [] := by
  rw [validateLogged, found]
  cases args <;> rfl

namespace Gatekeeper

/-! ## The events of an admission -/

section

variable {g : Gatekeeper ρ} {c : Context} {name : String} {args : Value} {entry : Entry}

/-- What is recorded of a decision in the end. -/
def denialEvents (name : String) : Decision → List Event
  | .allow => []
  | .deny reason => [.admissionDenied name reason]

theorem events_admission_of_absent (absent : CommandSource.get? g.source name = none) :
    (g.admission c name args).events = [.commandUnknown name] := by
  rw [admission, validate, validateLogged, absent]
  rfl

theorem events_admission_of_invalid (found : CommandSource.get? g.source name = some entry)
    {cause : RegistryError}
    (invalid : (validateLogged g.source g.validator name args).answer = .error cause) :
    (g.admission c name args).events = [] := by
  have stopped : (g.validate name args).answer = .error (.registry cause) :=
    congrArg (Except.mapError Error.registry) invalid
  have silent : (g.validate name args).events = [] := by
    simp [validate, events_validateLogged_of_found found args]
  simp only [admission, Logged.events_bind, stopped, silent, Logged.events_pure, List.append_nil]

theorem events_admission_of_valid (found : CommandSource.get? g.source name = some entry)
    (valid : (validateLogged g.source g.validator name args).answer = .ok ()) :
    (g.admission c name args).events =
      (g.table.foldedMeets c entry.required g.mode).map (.labelsFolded g.table.bottom) ++
        .decided g.table.bottom g.mode (g.table.evaluate c entry.required g.mode).denial? ::
          denialEvents name (g.table.evaluate c entry.required g.mode) := by
  have passed : (g.validate name args).answer = .ok () :=
    congrArg (Except.mapError Error.registry) valid
  have silent : (g.validate name args).events = [] := by
    simp [validate, events_validateLogged_of_found found args]
  have required : g.required name = .ok entry.required :=
    congrArg (Except.mapError Error.registry) (requirement_of_found found)
  have decided : (g.decision c entry.required).answer =
      g.table.evaluate c entry.required g.mode := rfl
  have recorded : (g.decision c entry.required).events = _ :=
    g.table.events_evaluateLogged c entry.required g.mode
  simp only [admission, Logged.events_bind, passed, silent, required, decided, recorded,
    List.nil_append]
  cases g.table.evaluate c entry.required g.mode <;> simp [denialEvents]

/-- **A denial is recorded exactly when it is answered**, for this command and with this
reason. -/
theorem admissionDenied_mem_events_iff {command : String} {reason : Denial} :
    .admissionDenied command reason ∈ (g.admission c name args).events ↔
      command = name ∧ (g.admission c name args).answer = .ok (.deny reason) := by
  cases found : CommandSource.get? g.source name with
  | none =>
      have failed : (g.admission c name args).answer = .error (.registry (.unknownCommand name)) :=
        answer_admission_of_invalid (answer_validateLogged_of_absent found)
      simp [events_admission_of_absent found, failed]
  | some entry =>
      cases checked : (validateLogged g.source g.validator name args).answer with
      | error cause =>
          simp [events_admission_of_invalid found checked, answer_admission_of_invalid checked]
      | ok _ =>
          rw [events_admission_of_valid found checked,
            answer_admission_of_valid checked (requirement_of_found found)]
          cases g.table.evaluate c entry.required g.mode <;> simp [denialEvents, eq_comm]

end

/-! ## The record as it is shown -/

/-- What is shown of a fold. -/
def foldLine (t : MeetTable) (meet : Label) : Line :=
  ⟨.trace, "folded capabilities", [("bottom", .text t.bottom.text), ("meet", .text meet.text)]⟩

/-- What is shown of a decision. -/
def decisionLine (t : MeetTable) (mode : Mode) (denial : String) : Line :=
  ⟨.trace, "evaluated admission",
    [("bottom", .text t.bottom.text), ("mode", .text mode.title), ("denial", .text denial)]⟩

/-- What is shown of an admission, from its beginning to its end. -/
inductive Transcript (g : Gatekeeper ρ) (c : Context) (name : String) (args : Value) :
    List Line → Prop
  | unknown (absent : CommandSource.get? g.source name = none) :
      Transcript g c name args
        [⟨.debug, "command not in registry", [("command", .text name)]⟩]
  | notObject {entry : Entry} (found : CommandSource.get? g.source name = some entry)
      (other : args.kind ≠ .object) :
      Transcript g c name args []
  | rejected {entry : Entry} {members : List (String × Value)} {cause : RegistryError}
      (found : CommandSource.get? g.source name = some entry) (object : args = .object members)
      (rejects : g.validator entry members = .error cause) :
      Transcript g c name args []
  | allowed {entry : Entry} {members : List (String × Value)}
      (found : CommandSource.get? g.source name = some entry) (object : args = .object members)
      (accepts : g.validator entry members = .ok ())
      (allows : g.table.evaluate c entry.required g.mode = .allow) :
      Transcript g c name args
        ((g.table.foldedMeets c entry.required g.mode).map (foldLine g.table) ++
          [decisionLine g.table g.mode "None"])
  | denied {entry : Entry} {members : List (String × Value)} {reason : Denial}
      (found : CommandSource.get? g.source name = some entry) (object : args = .object members)
      (accepts : g.validator entry members = .ok ())
      (denies : g.table.evaluate c entry.required g.mode = .deny reason) :
      Transcript g c name args
        ((g.table.foldedMeets c entry.required g.mode).map (foldLine g.table) ++
          [decisionLine g.table g.mode ("Some(" ++ reason.title ++ ")"),
            ⟨.debug, "admission denied",
              [("command", .text name), ("reason", .text reason.message)]⟩])

variable (g : Gatekeeper ρ) (c : Context) (name : String) (args : Value)

/-- The lines of an admission. -/
def lines : List Line :=
  (g.admission c name args).events.map Event.line

theorem lines_of_absent (absent : CommandSource.get? g.source name = none) :
    g.lines c name args = [⟨.debug, "command not in registry", [("command", .text name)]⟩] := by
  rw [lines, events_admission_of_absent absent]
  rfl

theorem lines_of_invalid {entry : Entry} {cause : RegistryError}
    (found : CommandSource.get? g.source name = some entry)
    (invalid : (validateLogged g.source g.validator name args).answer = .error cause) :
    g.lines c name args = [] := by
  rw [lines, events_admission_of_invalid found invalid]
  rfl

theorem lines_of_valid {entry : Entry} (found : CommandSource.get? g.source name = some entry)
    (valid : (validateLogged g.source g.validator name args).answer = .ok ()) :
    g.lines c name args =
      (g.table.foldedMeets c entry.required g.mode).map (foldLine g.table) ++
        decisionLine g.table g.mode
            (Event.denialTitle (g.table.evaluate c entry.required g.mode).denial?) ::
          (denialEvents name (g.table.evaluate c entry.required g.mode)).map Event.line := by
  rw [lines, events_admission_of_valid found valid, List.map_append, List.map_cons, List.map_map]
  rfl

theorem transcript_lines : g.Transcript c name args (g.lines c name args) := by
  -- the cases are those of the outcome, and a decision is one that allows or denies
  have outcome := g.outcome_admission c name args
  generalize (g.admission c name args).answer = answer at outcome
  cases outcome with
  | unknown absent =>
      rw [g.lines_of_absent c name args absent]
      exact .unknown absent
  | notObject found other =>
      rw [g.lines_of_invalid c name args found (answer_validateLogged_of_not_object found other)]
      exact .notObject found other
  | rejected found object rejects =>
      have checked := (answer_validateLogged_of_object found object).trans rejects
      rw [g.lines_of_invalid c name args found checked]
      exact .rejected found object rejects
  | @decided entry _ found object accepts =>
      have checked := (answer_validateLogged_of_object found object).trans accepts
      rw [g.lines_of_valid c name args found checked]
      cases decision : g.table.evaluate c entry.required g.mode with
      | allow => exact .allowed found object accepts decision
      | deny reason => exact .denied found object accepts decision

/-- Each case has one record. -/
theorem lines_eq_iff {ls : List Line} :
    g.lines c name args = ls ↔ g.Transcript c name args ls := by
  constructor
  · rintro rfl
    exact g.transcript_lines c name args
  · intro transcript
    cases transcript with
    | unknown absent => exact g.lines_of_absent c name args absent
    | notObject found other =>
        exact g.lines_of_invalid c name args found (answer_validateLogged_of_not_object found other)
    | rejected found object rejects =>
        have checked := (answer_validateLogged_of_object found object).trans rejects
        exact g.lines_of_invalid c name args found checked
    | allowed found object accepts allows =>
        have checked := (answer_validateLogged_of_object found object).trans accepts
        rw [g.lines_of_valid c name args found checked, allows]
        rfl
    | denied found object accepts denies =>
        have checked := (answer_validateLogged_of_object found object).trans accepts
        rw [g.lines_of_valid c name args found checked, denies]
        rfl

/-- **The record of an admission mirrors its outcome.**  It is the one transcript of the case
the request is in.  A denial is recorded for the command asked for, with the reason that is
answered, and only then; and a line that tells of a denied admission is shown exactly when
the answer is a denial, so that of an admission that fails there is none. -/
theorem record_mirrors_outcome :
    (∀ ls, (g.admission c name args).events.map Event.line = ls ↔
      g.Transcript c name args ls) ∧
    (∀ command reason, .admissionDenied command reason ∈ (g.admission c name args).events ↔
      command = name ∧ (g.admission c name args).answer = .ok (.deny reason)) ∧
    ((∃ line ∈ (g.admission c name args).events.map Event.line,
        line.message = "admission denied") ↔
      ∃ reason, (g.admission c name args).answer = .ok (.deny reason)) := by
  refine ⟨fun _ => g.lines_eq_iff c name args, fun _ _ => admissionDenied_mem_events_iff, ?_⟩
  constructor
  · rintro ⟨line, shown, told⟩
    obtain ⟨e, recorded, rfl⟩ := List.mem_map.1 shown
    obtain ⟨command, reason, rfl⟩ := Event.message_eq_denied_iff.1 told
    exact ⟨reason, (admissionDenied_mem_events_iff.1 recorded).2⟩
  · rintro ⟨reason, answered⟩
    have recorded := admissionDenied_mem_events_iff.2 ⟨rfl, answered⟩
    exact ⟨_, List.mem_map_of_mem recorded, rfl⟩

/-- The context is consistent, so the request is folded as well, and is not. -/
example : (Reference.gatekeeper .independent).lines ⟨.uniform ⟨"LOCAL"⟩⟩ "audit-export"
    (.object []) =
      [foldLine Reference.table ⟨"LOCAL"⟩, foldLine Reference.table ⟨"BOTTOM"⟩,
        decisionLine Reference.table .independent "Some(RequestInconsistent)",
        ⟨.debug, "admission denied", [("command", .text "audit-export"),
          ("reason", .text "requested capabilities meet to bottom")]⟩] := by
  decide

end Gatekeeper

end Clearance

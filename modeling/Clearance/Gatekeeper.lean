/-
# Clearance.Gatekeeper -- one door for every command

A gatekeeper holds a meet table, a source of commands, a mode and a check of
arguments.  `admission` takes a request through all of it: the request is
checked, the command's requirement looked up, and the context decided against it.
A denial is an answer, not an error; it is recorded after the decision.
-/
import Clearance.Evaluation
import Clearance.Error

namespace Clearance

open Clearance.Json

set_option autoImplicit false

structure Gatekeeper (ρ : Type) where
  table : MeetTable
  source : ρ
  mode : Mode := default
  validator : ArgsValidator := .deferred

namespace Gatekeeper

variable {ρ : Type} [CommandSource ρ]

/-- Check a request. -/
def validate (g : Gatekeeper ρ) (name : String) (args : Value) : Logged (Except Error Unit) := do
  return (← validateLogged g.source g.validator name args).mapError .registry

/-- The profile a command requires. -/
def required (g : Gatekeeper ρ) (name : String) : Except Error Profile :=
  (requirement g.source name).mapError .registry

/-- Decide a context against a request in the gatekeeper's mode. -/
def decision (g : Gatekeeper ρ) (c : Context) (request : Profile) : Logged Decision :=
  g.table.evaluateLogged c request g.mode

/-- Check a request, look its command up, and decide. -/
def admission (g : Gatekeeper ρ) (c : Context) (name : String) (args : Value) :
    Logged (Except Error Decision) := do
  match ← g.validate name args with
  | .error e => return .error e
  | .ok () =>
      match g.required name with
      | .error e => return .error e
      | .ok request => do
          let decision ← g.decision c request
          match decision with
          | .allow => return .ok decision
          | .deny reason => do
              Logged.emit (.admissionDenied name reason)
              return .ok decision

end Gatekeeper

end Clearance

/-
# Clearance.Registry.Document -- registries from JSON documents

A registry document is an object with an object of commands under `commands`.
The commands are read in the order of their keys, the first that is no entry is
the fault, and each is registered under its key, whatever name it carries.
`Registry.document` writes a registry as such a document.
-/
import Clearance.Registry.Basic
import Clearance.Wire.Entry

namespace Clearance

open Clearance.Json

set_option autoImplicit false

/-- Why a document describes no registry. -/
inductive DocumentFault where
  | noCommands
  | badCommand (name : String) (fault : Wire.Fault)
deriving DecidableEq

def DocumentFault.message : DocumentFault → String
  | noCommands => "missing `commands` object"
  | badCommand name fault => "command " ++ Wire.ticked name ++ ": " ++ fault.message

namespace Registry

/-- Register commands one by one. -/
def readCommands (r : Registry) : List (String × Value) → Except DocumentFault Registry
  | [] => .ok r
  | (name, v) :: rest =>
      match Wire.ofValue Entry v with
      | .ok e => (r.withEntry { e with name }).readCommands rest
      | .error fault => .error (.badCommand name fault)

/-- The registry a document describes. -/
def ofDocument (doc : Value) : Except DocumentFault Registry :=
  match doc.member? "commands" with
  | some (.object commands) => empty.readCommands commands
  | _ => .error .noCommands

theorem ofDocument_eq_ok_iff {doc : Value} {r : Registry} :
    ofDocument doc = .ok r ↔
      ∃ commands, doc.member? "commands" = some (.object commands) ∧
        empty.readCommands commands = .ok r := by
  constructor
  · intro accepted
    simp only [ofDocument] at accepted
    split at accepted
    · rename_i commands found
      exact ⟨commands, found, accepted⟩
    · cases accepted
  · rintro ⟨commands, found, read⟩
    rw [ofDocument, found]
    exact read

/-- A document that describes the registry. -/
def document (r : Registry) : Value :=
  .object [("commands", .object (r.entries.map fun e => (e.name, Wire.encode e)))]

end Registry

end Clearance

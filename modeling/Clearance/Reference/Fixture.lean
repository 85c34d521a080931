/-
# Clearance.Reference.Fixture -- a small table and registry to refer to

The reference table has a chain of three levels, `ROOT` above `TRUSTED` above
`LOCAL`, and beside it the level `AUDIT`, which meets only with itself.  The
reference registry has three commands, one of which asks for levels of both.
-/
import Clearance.MeetTable.Chain
import Clearance.MeetTable.Recorded
import Clearance.Gatekeeper

namespace Clearance.Reference

open Clearance.Json

set_option autoImplicit false

/-- The levels of the chain, highest first. -/
def levels : List Label :=
  [⟨"ROOT"⟩, ⟨"TRUSTED"⟩, ⟨"LOCAL"⟩]

/-- A level outside the chain. -/
def isolated : Label :=
  ⟨"AUDIT"⟩

def builder : Builder :=
  (({} : Builder).define isolated isolated isolated).defineChain levels

/-- The reference table. -/
def table : MeetTable :=
  builder.build.toOption.get (by decide)

/-- A profile as a document writes it. -/
def profileObject (host context runtime command financial : String) : Value :=
  .object [("host", .string host), ("context", .string context), ("runtime", .string runtime),
    ("command", .string command), ("financial", .string financial)]

/-- The document of the reference registry. -/
def document : Value :=
  .object [("commands", .object [
    ("audit-export", .object [
      ("required_capabilities", profileObject "AUDIT" "LOCAL" "LOCAL" "LOCAL" "LOCAL")]),
    ("status", .object [
      ("description", .string "read-only health check"),
      ("required_capabilities", profileObject "LOCAL" "LOCAL" "LOCAL" "LOCAL" "LOCAL")]),
    ("transfer", .object [
      ("required_capabilities", profileObject "TRUSTED" "TRUSTED" "ROOT" "TRUSTED" "ROOT")])])]

/-- The reference registry. -/
def registry : Registry :=
  (Registry.ofDocument document).toOption.get (by decide)

/-- The reference table, built and recorded. -/
def tableLogged : Logged MeetTable := do
  Logged.emit (.tableBuilt table.bottom table.size)
  return table

/-- The reference registry, read and recorded. -/
def registryLogged : Logged Registry := do
  Logged.emit (.registryBuilt registry.size)
  return registry

/-- A gatekeeper over the reference table and registry. -/
def gatekeeper (mode : Mode) : Gatekeeper Registry where
  table := table
  source := registry
  mode := mode

/-- The reference table and registry, each recorded. -/
def fixtureLogged : Logged Unit := do
  let _ ← tableLogged
  let _ ← registryLogged

end Clearance.Reference

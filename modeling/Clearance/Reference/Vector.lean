/-
# Clearance.Reference.Vector -- decisions that are known in advance

A golden vector is a context, a command of the reference registry, and the
decision expected in each mode.  `verifyAll` decides every vector afresh and says
whether it came out as expected; `mismatches` asks a gatekeeper instead.
-/
import Clearance.Reference.Fixture

namespace Clearance.Reference

open Clearance.Json

set_option autoImplicit false

structure GoldenVector where
  name : String
  context : Context
  command : String
  independent : Decision
  pairwise : Decision
deriving DecidableEq

/-- A vector that names no command of the reference registry. -/
structure UnknownVectorCommand where
  vector : String
deriving DecidableEq

def UnknownVectorCommand.message (e : UnknownVectorCommand) : String :=
  "vector '" ++ e.vector ++ "' names an unknown command"

namespace GoldenVector

/-- The decision expected in a mode. -/
def expected (v : GoldenVector) : Mode → Decision
  | .independent => v.independent
  | .pairwise => v.pairwise

/-- Decide a vector over the reference table and registry. -/
def decideLogged (v : GoldenVector) (mode : Mode) :
    Logged (Except UnknownVectorCommand Decision) := do
  let table ← tableLogged
  let registry ← registryLogged
  match registry.get? v.command with
  | none => return .error ⟨v.name⟩
  | some entry => return .ok (← table.evaluateLogged v.context entry.required mode)

end GoldenVector

/-- A context of five levels. -/
def contextOf (host context runtime command financial : String) : Context :=
  ⟨⟨host⟩, ⟨context⟩, ⟨runtime⟩, ⟨command⟩, ⟨financial⟩⟩

/-- A context with one level everywhere. -/
def uniformContext (level : String) : Context :=
  ⟨Profile.uniform ⟨level⟩⟩

/-- All golden vectors. -/
def vectors : List GoldenVector :=
  [{ name := "root context runs status"
     context := uniformContext "ROOT"
     command := "status"
     independent := .allow
     pairwise := .allow },
   { name := "local context runs transfer"
     context := uniformContext "LOCAL"
     command := "transfer"
     independent := .allow
     pairwise := .allow },
   { name := "audit context runs status"
     context := uniformContext "AUDIT"
     command := "status"
     independent := .allow
     pairwise := .deny (.dimensionInsufficient .host) },
   { name := "audit-export mixes branches"
     context := uniformContext "ROOT"
     command := "audit-export"
     independent := .deny .requestInconsistent
     pairwise := .deny (.dimensionInsufficient .host) },
   { name := "context with audit runtime"
     context := contextOf "ROOT" "ROOT" "AUDIT" "ROOT" "ROOT"
     command := "status"
     independent := .deny .contextInconsistent
     pairwise := .deny (.dimensionInsufficient .runtime) },
   { name := "unknown financial label"
     context := contextOf "ROOT" "ROOT" "ROOT" "ROOT" "GUEST"
     command := "transfer"
     independent := .deny .contextInconsistent
     pairwise := .deny (.dimensionInsufficient .financial) },
   { name := "bottom context"
     context := uniformContext "BOTTOM"
     command := "status"
     independent := .deny .contextInconsistent
     pairwise := .deny (.dimensionInsufficient .host) },
   { name := "audit host matches audit-export"
     context := contextOf "AUDIT" "ROOT" "ROOT" "ROOT" "ROOT"
     command := "audit-export"
     independent := .deny .contextInconsistent
     pairwise := .deny .combinedInsufficient }]

/-- The outcome of one vector in both modes. -/
structure Verdict where
  name : String
  independent : Except UnknownVectorCommand Decision
  pairwise : Except UnknownVectorCommand Decision
  agrees : Bool

namespace Verdict

def outcomeTitle : Except UnknownVectorCommand Decision → String
  | .ok d => d.title
  | .error e => e.message

/-- The decisions that came out. -/
def detail (v : Verdict) : String :=
  "independent=" ++ outcomeTitle v.independent ++ " pairwise=" ++ outcomeTitle v.pairwise

end Verdict

/-- A vector came out as expected. -/
def isExpected (expected : Decision) : Except UnknownVectorCommand Decision → Bool
  | .ok d => d = expected
  | .error _ => false

/-- Decide one vector in both modes. -/
def verifyLogged (v : GoldenVector) : Logged Verdict := do
  let independent ← v.decideLogged .independent
  let pairwise ← v.decideLogged .pairwise
  let agrees := isExpected v.independent independent && isExpected v.pairwise pairwise
  return { name := v.name, independent, pairwise, agrees }

/-- Decide all golden vectors in both modes. -/
def verifyAll : Logged (List Verdict) :=
  vectors.mapM verifyLogged

/-- The gatekeeper does not decide the vector as expected. -/
def differsLogged (mode : Mode) (v : GoldenVector) : Logged Bool := do
  match ← (gatekeeper mode).admission v.context v.command (.object []) with
  | .ok d => return d ≠ v.expected mode
  | .error _ => return true

/-- The names of the vectors that a gatekeeper decides differently. -/
def mismatches (mode : Mode) : Logged (List String) := do
  fixtureLogged
  let differing ← vectors.filterM (differsLogged mode)
  return differing.map GoldenVector.name

end Clearance.Reference

/-
# Clearance.Decision -- what is asked of a gate and what it answers

A decision allows or denies, and a denial has one reason.  The mode chooses
what is checked: independently, that the context and the request are each
consistent by itself; pairwise, that they meet on every dimension and that
those meets are consistent together.
-/
import Clearance.Dimension

namespace Clearance

set_option autoImplicit false

/-- How a context and a request are compared. -/
inductive Mode where
  | independent
  | pairwise
deriving DecidableEq

/-- Independent checks are the default. -/
instance : Inhabited Mode :=
  ⟨.independent⟩

/-- The mode as a diagnostic shows it. -/
def Mode.title : Mode → String
  | independent => "Independent"
  | pairwise => "Pairwise"

/-- Why an execution is denied. -/
inductive Denial where
  | contextInconsistent
  | requestInconsistent
  | dimensionInsufficient (dimension : Dimension)
  | combinedInsufficient
deriving DecidableEq

namespace Denial

def message : Denial → String
  | contextInconsistent => "execution context meets to bottom"
  | requestInconsistent => "requested capabilities meet to bottom"
  | dimensionInsufficient d => "context does not satisfy request on " ++ d.name
  | combinedInsufficient => "per-dimension capabilities meet to bottom"

/-- The denial as a diagnostic shows it. -/
def title : Denial → String
  | contextInconsistent => "ContextInconsistent"
  | requestInconsistent => "RequestInconsistent"
  | dimensionInsufficient d => "DimensionInsufficient(" ++ d.title ++ ")"
  | combinedInsufficient => "CombinedInsufficient"

end Denial

inductive Decision where
  | allow
  | deny (reason : Denial)
deriving DecidableEq

namespace Decision

/-- The decision a denial makes, or its absence. -/
def ofDenial? : Option Denial → Decision
  | none => allow
  | some reason => deny reason

def denial? : Decision → Option Denial
  | allow => none
  | deny reason => some reason

def isAllowed (d : Decision) : Bool :=
  d = allow

/-- The decision as a diagnostic shows it. -/
def title : Decision → String
  | allow => "Allow"
  | deny reason => "Deny \x7b reason: " ++ reason.title ++ " \x7d"

@[simp] theorem denial?_ofDenial? (d : Option Denial) : (ofDenial? d).denial? = d := by
  cases d <;> rfl

@[simp] theorem ofDenial?_denial? (d : Decision) : ofDenial? d.denial? = d := by
  cases d <;> rfl

theorem isAllowed_iff {d : Decision} : d.isAllowed = true ↔ d = allow := by
  simp [isAllowed]

end Decision

end Clearance

/-
# Clearance.Path.Stage -- the stages a path goes through

Host input becomes a logical path, and a logical path an artifact in memory.
`adapt` and `resolve` are the only two edges, so no path gets from the host to
memory but through its logical stage.
-/

namespace Clearance

set_option autoImplicit false

/-- How far a path is from host input. -/
inductive Stage where
  | host
  | logical
  | memory
deriving DecidableEq

/-- An edge between two stages. -/
inductive Transition where
  | adapt
  | resolve
deriving DecidableEq

/-- Why a path does not get to a stage. -/
inductive PathError where
  | forbiddenTransition (source target : Stage)
deriving DecidableEq

namespace Stage

/-- Where every path starts. -/
def initial : Stage :=
  host

def all : List Stage :=
  [host, logical, memory]

def name : Stage → String
  | host => "host"
  | logical => "logical"
  | memory => "memory"

def ofName? (text : String) : Option Stage :=
  all.find? fun s => s.name == text

theorem ofName?_name (s : Stage) : ofName? s.name = some s := by
  cases s <;> decide

def index : Stage → Nat
  | host => 0
  | logical => 1
  | memory => 2

/-- Stages are ordered by how far they are from host input. -/
instance : Ord Stage :=
  ⟨compareOn index⟩

/-- No edge leaves the stage. -/
def isTerminal (s : Stage) : Bool :=
  s = memory

/-- The edge from one stage to another. -/
def transition : Stage → Stage → Except PathError Transition
  | host, logical => .ok .adapt
  | logical, memory => .ok .resolve
  | source, target => .error (.forbiddenTransition source target)

end Stage

namespace Transition

def all : List Transition :=
  [adapt, resolve]

def name : Transition → String
  | adapt => "adapt"
  | resolve => "resolve"

def ofName? (text : String) : Option Transition :=
  all.find? fun t => t.name == text

theorem ofName?_name (t : Transition) : ofName? t.name = some t := by
  cases t <;> decide

def source : Transition → Stage
  | adapt => .host
  | resolve => .logical

def target : Transition → Stage
  | adapt => .logical
  | resolve => .memory

/-- An edge is what leads from its source to its target. -/
theorem transition_eq_ok_iff {s t : Stage} {e : Transition} :
    s.transition t = .ok e ↔ e.source = s ∧ e.target = t := by
  cases s <;> cases t <;> cases e <;> simp [Stage.transition, source, target]

end Transition

def PathError.message : PathError → String
  | forbiddenTransition source target =>
      "forbidden transition: " ++ source.name ++ " -> " ++ target.name

end Clearance

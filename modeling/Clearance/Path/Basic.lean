/-
# Clearance.Path.Basic -- paths that know where they come from

A host path is raw input, taken as it is.  Adapting it gives a logical path in
the namespace `host` whose key is the raw text, byte for byte; resolving a
logical path gives a memory path that carries it along, with the hash and the
time its caller supplies.  There is no way from a host path to a memory path but
these two steps, and asking for one is an error.
-/
import Clearance.Path.Stage

namespace Clearance

set_option autoImplicit false

/-- Untrusted input. -/
structure HostPath where
  raw : String
deriving DecidableEq

/-- A key in a namespace. -/
structure LogicalPath where
  space : String
  key : String
deriving DecidableEq

/-- A resolved artifact. -/
structure MemoryPath where
  logical : LogicalPath
  sha256 : String
  loadedAt : String
deriving DecidableEq

/-- The namespace of adapted host input. -/
def hostSpace : String :=
  "host"

namespace HostPath

def adapt (p : HostPath) : LogicalPath :=
  ⟨hostSpace, p.raw⟩

/-- Host input never becomes an artifact in one step. -/
def toMemory (_ : HostPath) : Except PathError Empty :=
  .error (.forbiddenTransition .host .memory)

end HostPath

namespace LogicalPath

def text (p : LogicalPath) : String :=
  p.space ++ ":" ++ p.key

/-- Logical paths are ordered by namespace, then by key. -/
instance : Ord LogicalPath :=
  ⟨compareLex (compareOn space) (compareOn key)⟩

def resolve (p : LogicalPath) (sha256 loadedAt : String) : MemoryPath :=
  ⟨p, sha256, loadedAt⟩

end LogicalPath

/-- A path of any stage. -/
inductive Path where
  | host (p : HostPath)
  | logical (p : LogicalPath)
  | memory (p : MemoryPath)
deriving DecidableEq

namespace Path

def stage : Path → Stage
  | host _ => .host
  | logical _ => .logical
  | memory _ => .memory

/-- Take a path to a stage along the edge that leads there; the hash and the time
are for an artifact. -/
def advance (p : Path) (target : Stage) (sha256 loadedAt : String) : Except PathError Path :=
  match p, target with
  | host h, .logical => .ok (logical h.adapt)
  | logical l, .memory => .ok (memory (l.resolve sha256 loadedAt))
  | p, target => .error (.forbiddenTransition p.stage target)

/-- A path gets to exactly the stages an edge leads to. -/
theorem stage_of_advance {p q : Path} {target : Stage} {sha256 loadedAt : String}
    (arrives : p.advance target sha256 loadedAt = .ok q) :
    q.stage = target ∧ ∃ e, p.stage.transition target = .ok e := by
  cases p <;> cases target <;>
    simp [advance] at arrives <;> subst arrives <;> exact ⟨rfl, _, rfl⟩

end Path

end Clearance

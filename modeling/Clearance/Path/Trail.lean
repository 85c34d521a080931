/-
# Clearance.Path.Trail -- runs that make paths out of paths

A trail starts with no path.  Each step takes in a new host or logical path, or
makes a path out of one that is there, and adds it at the end; a step that asks
for a path that is not there, or is of another stage, adds nothing.  Nor does a
step that asks to turn host input into an artifact at once.
-/
import Clearance.Path.Basic

namespace Clearance

set_option autoImplicit false

/-- One step of a trail; paths are named by their places. -/
inductive TrailStep where
  | host (raw : String)
  | logical (space key : String)
  | adapt (place : Nat)
  | resolve (place : Nat) (sha256 loadedAt : String)
  | forbid (place : Nat)
deriving DecidableEq

namespace TrailStep

/-- The path a step makes. -/
def made? (pool : List Path) : TrailStep → Option Path
  | host raw => some (.host ⟨raw⟩)
  | logical space key => some (.logical ⟨space, key⟩)
  | adapt place =>
      match pool[place]? with
      | some (.host h) => some (.logical h.adapt)
      | _ => none
  | resolve place sha256 loadedAt =>
      match pool[place]? with
      | some (.logical l) => some (.memory (l.resolve sha256 loadedAt))
      | _ => none
  | forbid place =>
      match pool[place]? with
      | some (.host h) => h.toMemory.toOption.map Empty.elim
      | _ => none

end TrailStep

/-- The paths after some steps, from the given ones. -/
def trailFrom (pool : List Path) (steps : List TrailStep) : List Path :=
  steps.foldl (fun pool s => pool ++ (s.made? pool).toList) pool

/-- The paths of a trail in the order they were made. -/
def trail (steps : List TrailStep) : List Path :=
  trailFrom [] steps

end Clearance

/-
# Clearance.Error -- everything that can go wrong around a gate
-/
import Clearance.Request
import Clearance.MeetTable.Builder
import Clearance.Path.Stage

namespace Clearance

set_option autoImplicit false

inductive Error where
  | table (cause : BuildError)
  | profile (cause : ProfileError)
  | registry (cause : RegistryError)
  | path (cause : PathError)
deriving DecidableEq

/-- The message of the cause, after the part of the gate it is about. -/
def Error.message : Error → String
  | table cause => "core error: " ++ cause.message
  | profile cause => "core error: " ++ cause.message
  | registry cause => "registry error: " ++ cause.message
  | path cause => "provenance error: " ++ cause.message

end Clearance

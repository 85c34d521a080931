/-
# Clearance.Registry.Entry -- a command and what it requires
-/
import Clearance.Profile
import Clearance.Ordered

namespace Clearance

set_option autoImplicit false

/-- A command, the profile it requires, and what it is for. -/
structure Entry where
  name : String
  required : Profile
  description : Option String := none
deriving DecidableEq

namespace Entry

/-- Entries are ordered by their names. -/
def compareNames : Entry → Entry → Ordering :=
  compareOn name

instance : Std.TransCmp compareNames :=
  inferInstanceAs (Std.TransCmp (compareOn name))

theorem compareNames_eq_iff {e f : Entry} : compareNames e f = .eq ↔ e.name = f.name := by
  simp only [compareNames, compareOn, Std.LawfulEqOrd.compare_eq_iff_eq]

end Entry

end Clearance

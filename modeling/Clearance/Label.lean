/-
# Clearance.Label -- opaque capability labels

A label is a string and nothing more: no case folding, trimming or
normalization, the empty string included.  Two labels are the same exactly when
their texts are, and labels are ordered by the code points of their texts.
-/
import Clearance.Ordered

namespace Clearance

set_option autoImplicit false

/-- The name of a trust level. -/
structure Label where
  text : String
deriving DecidableEq, Hashable

namespace Label

/-- Labels are the same exactly when their texts are. -/
theorem text_inj {a b : Label} : a.text = b.text ↔ a = b := by
  cases a; cases b; simp

/-- Labels are ordered as their texts, code point by code point. -/
instance : Ord Label :=
  ⟨compareOn Label.text⟩

instance : Std.TransOrd Label :=
  inferInstanceAs (Std.TransCmp (compareOn Label.text))

instance : Std.LawfulEqOrd Label where
  eq_of_compare h := text_inj.1 (Std.LawfulEqOrd.eq_of_compare (α := String) h)

/-- The label as a diagnostic shows it: its text as it stands, unquoted. -/
def describe (l : Label) : String :=
  "Capability(" ++ l.text ++ ")"

/-- The labels of a list without repetition, in ascending order. -/
def sorted (ls : List Label) : List Label :=
  Ordered.ofList compare ls

theorem mem_sorted {l : Label} {ls : List Label} : l ∈ sorted ls ↔ l ∈ ls :=
  Ordered.mem_ofList_iff fun _ _ _ _ => Std.LawfulEqOrd.eq_of_compare

theorem sorted_ascending (ls : List Label) : Ordered.Ascending compare (sorted ls) :=
  Ordered.ascending_ofList ls

end Label

end Clearance

/-
# Clearance.Dimension -- the five axes of a capability profile

Every profile has one label on each of five axes, and the axes have one
canonical order, `Dimension.all`.  Each has a lower-case name, the only text it
is written as and read from (`ofName?_name`).
-/

namespace Clearance

set_option autoImplicit false

inductive Dimension where
  | host
  | context
  | runtime
  | command
  | financial
deriving DecidableEq

namespace Dimension

/-- All axes in canonical order. -/
def all : List Dimension :=
  [.host, .context, .runtime, .command, .financial]

def name : Dimension → String
  | .host => "host"
  | .context => "context"
  | .runtime => "runtime"
  | .command => "command"
  | .financial => "financial"

/-- The name as a diagnostic shows it. -/
def title : Dimension → String
  | .host => "Host"
  | .context => "Context"
  | .runtime => "Runtime"
  | .command => "Command"
  | .financial => "Financial"

/-- The place in the canonical order. -/
def index : Dimension → Nat
  | .host => 0
  | .context => 1
  | .runtime => 2
  | .command => 3
  | .financial => 4

/-- The axis with exactly this name. -/
def ofName? (text : String) : Option Dimension :=
  all.find? fun d => d.name == text

/-- Axes are ordered by their places. -/
instance : Ord Dimension :=
  ⟨compareOn index⟩

theorem mem_all (d : Dimension) : d ∈ all := by
  cases d <;> decide

theorem all_ascending : all.Pairwise fun d e => d.index < e.index := by
  decide

/-- The axes before a place are those of a smaller index. -/
theorem mem_before_iff {before after : List Dimension} {d e : Dimension}
    (place : all = before ++ d :: after) : e ∈ before ↔ e.index < d.index := by
  have ascending := all_ascending
  rw [place, List.pairwise_append, List.pairwise_cons] at ascending
  obtain ⟨-, ⟨greater, -⟩, less⟩ := ascending
  constructor
  · intro earlier
    exact less e earlier d (List.mem_cons_self ..)
  · intro smaller
    have member : e ∈ before ++ d :: after := place ▸ mem_all e
    rcases List.mem_append.1 member with earlier | fromHere
    · exact earlier
    · -- from `d` on no index is smaller
      exfalso
      rcases List.mem_cons.1 fromHere with rfl | later
      · omega
      · have larger := greater e later
        omega

/-- A search through all axes finds the first one in canonical order. -/
theorem find?_all_eq_some_iff {p : Dimension → Bool} {d : Dimension} :
    all.find? p = some d ↔ p d = true ∧ ∀ e, e.index < d.index → p e = false := by
  rw [List.find?_eq_some_iff_append]
  constructor
  · rintro ⟨holds, before, after, place, fails⟩
    refine ⟨holds, fun e smaller => ?_⟩
    simpa using fails e ((mem_before_iff place).2 smaller)
  · rintro ⟨holds, fails⟩
    obtain ⟨before, after, place⟩ := List.append_of_mem (mem_all d)
    refine ⟨holds, before, after, place, fun e earlier => ?_⟩
    simp [fails e ((mem_before_iff place).1 earlier)]

theorem name_injective {d e : Dimension} (same : d.name = e.name) : d = e := by
  cases d <;> cases e <;> first | rfl | exact absurd same (by decide)

theorem name_inj {d e : Dimension} : d.name = e.name ↔ d = e :=
  ⟨name_injective, congrArg name⟩

theorem ofName?_name (d : Dimension) : ofName? d.name = some d := by
  cases d <;> decide

theorem ofName?_eq_some_iff {text : String} {d : Dimension} :
    ofName? text = some d ↔ d.name = text := by
  constructor
  · intro found
    simpa using List.find?_some found
  · rintro rfl
    exact ofName?_name d

theorem ofName?_eq_none_iff {text : String} :
    ofName? text = none ↔ ∀ d : Dimension, d.name ≠ text := by
  rw [Option.eq_none_iff_forall_ne_some]
  exact forall_congr' fun d => not_congr ofName?_eq_some_iff

end Dimension

end Clearance

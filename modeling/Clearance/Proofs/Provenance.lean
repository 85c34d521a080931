/-
# Clearance.Proofs.Provenance -- every artifact went through its logical path

A trail only grows, and what is at a place of it was made there by one step, out of
the paths that were there before (`getElem?_trail_iff`).  So a path derives from another
when the step that made it asked for the other one (`Derives`), and what a step can make
(`Made`) settles the rest: an artifact derives from the logical path it carries, a logical
path that no step named derives from a host path with its key, and each derivation is
along an edge between stages.

The stages alone say the same once more.  An edge leads to the next stage, so a sequence
of edges ascends, and there is one such sequence from the host to memory.
-/
import Mathlib.Data.List.Chain
import Clearance.Ordered
import Clearance.Path.Trail

namespace Clearance

set_option autoImplicit false

/-! ## Edges between stages -/

namespace Stage

instance : Std.TransOrd Stage :=
  inferInstanceAs (Std.TransCmp (compareOn index))

/-- There is an edge from the one stage to the other. -/
def Leads (s t : Stage) : Prop :=
  ∃ e, s.transition t = .ok e

theorem leads_iff {s t : Stage} :
    s.Leads t ↔ s = host ∧ t = logical ∨ s = logical ∧ t = memory := by
  cases s <;> cases t <;> simp [Leads, transition]

theorem lt_of_leads {s t : Stage} (edge : s.Leads t) : compare s t = .lt := by
  obtain ⟨rfl, rfl⟩ | ⟨rfl, rfl⟩ := leads_iff.1 edge <;> rfl

/-- Edge after edge the stages ascend. -/
theorem ascending_of_leads {stages : List Stage} (legal : stages.IsChain Leads) :
    Ordered.Ascending compare stages := by
  have : Trans (fun s t : Stage => compare s t = .lt) (fun s t => compare s t = .lt)
      (fun s t => compare s t = .lt) := ⟨Std.TransCmp.lt_trans⟩
  exact List.isChain_iff_pairwise.1 (legal.imp fun _ _ => lt_of_leads)

/-- There is one way from the host to memory. -/
theorem host_to_memory {stages : List Stage} (legal : stages.IsChain Leads)
    (starts : stages.head? = some host) (ends : stages.getLast? = some memory) :
    stages = [host, logical, memory] := by
  obtain ⟨rest, rfl⟩ := List.head?_eq_some_iff.1 starts
  match rest, legal, ends with
  | [], _, ends => simp at ends
  | [t], legal, ends =>
      have edge : host.Leads t := List.isChain_pair.1 legal
      simp_all [leads_iff]
  | t :: u :: rest, legal, ends =>
      obtain ⟨first, second, onward⟩ : host.Leads t ∧ t.Leads u ∧ (u :: rest).IsChain Leads := by
        simpa using legal
      obtain rfl : t = logical := by simpa [leads_iff] using first
      obtain rfl : u = memory := by simpa [leads_iff] using second
      cases rest with
      | nil => rfl
      | cons v rest => simp [leads_iff] at onward

end Stage

/-! ## Trails grow -/

theorem trail_append (before after : List TrailStep) :
    trail (before ++ after) = trailFrom (trail before) after :=
  List.foldl_append

theorem trail_concat (steps : List TrailStep) (s : TrailStep) :
    trail (steps ++ [s]) = trail steps ++ (s.made? (trail steps)).toList :=
  trail_append steps [s]

theorem isPrefix_trailFrom (pool : List Path) (steps : List TrailStep) :
    pool <+: trailFrom pool steps := by
  induction steps generalizing pool with
  | nil => exact List.prefix_rfl
  | cons s steps ih => exact (List.prefix_append _ _).trans (ih _)

/-- What is at a place stays there. -/
theorem getElem?_trail_append {before : List TrailStep} {i : Nat} {p : Path}
    (there : (trail before)[i]? = some p) (after : List TrailStep) :
    (trail (before ++ after))[i]? = some p := by
  obtain ⟨added, grown⟩ := isPrefix_trailFrom (trail before) after
  rw [trail_append, ← grown, List.getElem?_append_left (List.getElem?_eq_some_iff.1 there).1]
  exact there

/-- What is at a place was made there by a step. -/
theorem getElem?_trail_iff {steps : List TrailStep} {i : Nat} {p : Path} :
    (trail steps)[i]? = some p ↔
      ∃ before s after, steps = before ++ s :: after ∧ i = (trail before).length ∧
        s.made? (trail before) = some p := by
  constructor
  · intro there
    induction steps using List.reverseRecOn with
    | nil => simp [trail, trailFrom] at there
    | append_singleton steps s ih =>
        rw [trail_concat] at there
        by_cases old : i < (trail steps).length
        · rw [List.getElem?_append_left old] at there
          obtain ⟨before, t, after, rfl, place, made⟩ := ih there
          exact ⟨before, t, after ++ [s], by simp, place, made⟩
        · rw [List.getElem?_append_right (Nat.le_of_not_lt old)] at there
          cases made : s.made? (trail steps) with
          | none => simp [made] at there
          | some q =>
              have place : i - (trail steps).length = 0 ∧ q = p := by
                simpa [made, List.getElem?_singleton] using there
              exact ⟨steps, s, [], rfl, by omega, place.2 ▸ made⟩
  · rintro ⟨before, s, after, rfl, rfl, made⟩
    have added : (trail (before ++ [s]))[(trail before).length]? = some p := by
      rw [trail_concat, made]
      simp
    simpa using getElem?_trail_append added after

/-! ## What a step makes, and out of what -/

namespace TrailStep

/-- The place of the path that a step asks for. -/
def place? : TrailStep → Option Nat
  | host _ => none
  | logical _ _ => none
  | adapt place => some place
  | resolve place _ _ => some place
  | forbid place => some place

/-- The paths a step can make, and what has to be there. -/
inductive Made (pool : List Path) : TrailStep → Path → Prop where
  | host (raw : String) : Made pool (.host raw) (.host ⟨raw⟩)
  | logical (space key : String) : Made pool (.logical space key) (.logical ⟨space, key⟩)
  | adapt {place : Nat} {h : HostPath} (there : pool[place]? = some (.host h)) :
      Made pool (.adapt place) (.logical h.adapt)
  | resolve {place : Nat} {l : LogicalPath} (sha256 loadedAt : String)
      (there : pool[place]? = some (.logical l)) :
      Made pool (.resolve place sha256 loadedAt) (.memory (l.resolve sha256 loadedAt))

/-- Host input asked for as an artifact makes nothing. -/
theorem made?_forbid (pool : List Path) (place : Nat) : (forbid place).made? pool = none := by
  simp only [made?]
  split <;> rfl

theorem made_of_made? {pool : List Path} {s : TrailStep} {p : Path}
    (made : s.made? pool = some p) : Made pool s p := by
  cases s with
  | host raw =>
      cases made
      exact .host raw
  | logical space key =>
      cases made
      exact .logical space key
  | adapt place =>
      simp only [made?] at made
      split at made
      · rename_i there
        cases made
        exact .adapt there
      · cases made
  | resolve place sha256 loadedAt =>
      simp only [made?] at made
      split at made
      · rename_i there
        cases made
        exact .resolve sha256 loadedAt there
      · cases made
  | forbid place =>
      rw [made?_forbid] at made
      cases made

end TrailStep

/-- The second path was made at its place by a step that asked for the first one, which was
at its own. -/
def Derives (steps : List TrailStep) (a b : Nat × Path) : Prop :=
  ∃ before s after, steps = before ++ s :: after ∧ s.place? = some a.1 ∧
    (trail before)[a.1]? = some a.2 ∧ b.1 = (trail before).length ∧
    s.made? (trail before) = some b.2

namespace Derives

variable {steps : List TrailStep} {a b : Nat × Path}

theorem lt (derives : Derives steps a b) : a.1 < b.1 := by
  obtain ⟨before, s, after, -, -, there, place, -⟩ := derives
  rw [place]
  exact (List.getElem?_eq_some_iff.1 there).1

theorem source_there (derives : Derives steps a b) : (trail steps)[a.1]? = some a.2 := by
  obtain ⟨before, s, after, rfl, -, there, -, -⟩ := derives
  exact getElem?_trail_append there (s :: after)

/-- A derivation is along the edge to the stage of what was made. -/
theorem advance (derives : Derives steps a b) :
    ∃ sha256 loadedAt, a.2.advance b.2.stage sha256 loadedAt = .ok b.2 := by
  obtain ⟨i, p⟩ := a
  obtain ⟨j, q⟩ := b
  obtain ⟨before, s, after, -, asked, there, -, made⟩ := derives
  cases TrailStep.made_of_made? made with
  | host raw => cases asked
  | logical space key => cases asked
  | adapt found =>
      cases asked
      cases found.symm.trans there
      exact ⟨"", "", rfl⟩
  | resolve sha256 loadedAt found =>
      cases asked
      cases found.symm.trans there
      exact ⟨sha256, loadedAt, rfl⟩

theorem leads (derives : Derives steps a b) : a.2.stage.Leads b.2.stage := by
  obtain ⟨sha256, loadedAt, arrives⟩ := derives.advance
  exact (Path.stage_of_advance arrives).2

end Derives

/-- An artifact derives from the logical path it carries. -/
theorem exists_derives_memory {steps : List TrailStep} {i : Nat} {m : MemoryPath}
    (there : (trail steps)[i]? = some (.memory m)) :
    ∃ j, Derives steps (j, .logical m.logical) (i, .memory m) := by
  obtain ⟨before, s, after, cut, place, made⟩ := getElem?_trail_iff.1 there
  cases TrailStep.made_of_made? made with
  | resolve sha256 loadedAt found => exact ⟨_, before, _, after, cut, rfl, found, place, made⟩

/-- A logical path derives from a host path, unless a step named it. -/
theorem exists_derives_logical {steps : List TrailStep} {i : Nat} {l : LogicalPath}
    (there : (trail steps)[i]? = some (.logical l))
    (unnamed : ∀ space key, .logical space key ∉ steps) :
    ∃ j h, Derives steps (j, .host h) (i, .logical l) ∧ l = h.adapt := by
  obtain ⟨before, s, after, rfl, place, made⟩ := getElem?_trail_iff.1 there
  cases TrailStep.made_of_made? made with
  | logical space key => exact absurd (by simp) (unnamed space key)
  | adapt found => exact ⟨_, _, ⟨before, _, after, rfl, rfl, found, place, made⟩, rfl⟩

/-- A step that asks for host input as an artifact could as well be left out. -/
theorem trail_forbid (before after : List TrailStep) (place : Nat) :
    trail (before ++ .forbid place :: after) = trail (before ++ after) := by
  have nothing : trail (before ++ [.forbid place]) = trail before := by
    rw [trail_concat, TrailStep.made?_forbid]
    simp
  rw [List.append_cons, trail_append, nothing, ← trail_append]

/-- **No artifact without its logical path.**  In every trail an artifact was made out of
the logical path it carries, at an earlier place; where no step names a logical path, that
one was made out of host input, and has the namespace `host` and the input for its key.
Host input asked for as an artifact is an error and adds nothing.  And paths that derive
one from the next go along edges between stages, edges ascend, and from the host to memory
they go through the logical stage. -/
theorem memory_only_through_logical (steps : List TrailStep) :
    (∀ i m, (trail steps)[i]? = some (.memory m) →
      ∃ j < i, (trail steps)[j]? = some (.logical m.logical) ∧
        Derives steps (j, .logical m.logical) (i, .memory m)) ∧
    ((∀ space key, .logical space key ∉ steps) →
      ∀ i m, (trail steps)[i]? = some (.memory m) →
        ∃ j < i, (trail steps)[j]? = some (.logical m.logical) ∧
          Derives steps (j, .logical m.logical) (i, .memory m) ∧
          ∃ k < j, ∃ h, (trail steps)[k]? = some (.host h) ∧
            Derives steps (k, .host h) (j, .logical m.logical) ∧
            m.logical.space = "host" ∧ m.logical.key = h.raw) ∧
    (∀ h : HostPath, h.toMemory = .error (.forbiddenTransition .host .memory)) ∧
    (∀ before place after, steps = before ++ .forbid place :: after →
      trail steps = trail (before ++ after)) ∧
    (∀ chain : List (Nat × Path), chain.IsChain (Derives steps) →
      (chain.map fun a => a.2.stage).IsChain Stage.Leads) ∧
    (∀ stages : List Stage, stages.IsChain Stage.Leads →
      Ordered.Ascending compare stages ∧
      (stages.head? = some .host → stages.getLast? = some .memory →
        stages = [.host, .logical, .memory])) := by
  refine ⟨?resolved, ?adapted, fun _ => rfl, ?forbidden, ?derived, ?staged⟩
  case resolved =>
    intro i m there
    obtain ⟨j, derives⟩ := exists_derives_memory there
    exact ⟨j, derives.lt, derives.source_there, derives⟩
  case adapted =>
    intro unnamed i m there
    obtain ⟨j, resolved⟩ := exists_derives_memory there
    obtain ⟨k, h, adapted, same⟩ := exists_derives_logical resolved.source_there unnamed
    refine ⟨j, resolved.lt, resolved.source_there, resolved, k, adapted.lt, h,
      adapted.source_there, adapted, ?_, ?_⟩
    · rw [same]
      rfl
    · rw [same]
      rfl
  case forbidden =>
    rintro before place after rfl
    exact trail_forbid before after place
  case derived =>
    intro chain derived
    exact (List.isChain_map _).2 (derived.imp fun _ _ => Derives.leads)
  case staged =>
    intro stages legal
    exact ⟨Stage.ascending_of_leads legal, Stage.host_to_memory legal⟩

/-- Host input that is adapted, asked for as an artifact, and resolved. -/
def detour : List TrailStep :=
  [.host "../etc", .adapt 0, .forbid 0, .resolve 1 "hash" "now"]

theorem detour_through_logical :
    (trail detour)[2]? = some (.memory ⟨⟨"host", "../etc"⟩, "hash", "now"⟩) ∧
    (∃ j < 2, (trail detour)[j]? = some (.logical ⟨"host", "../etc"⟩) ∧
      ∃ k < j, ∃ h : HostPath, (trail detour)[k]? = some (.host h) ∧ "../etc" = h.raw) ∧
    trail detour = trail [.host "../etc", .adapt 0, .resolve 1 "hash" "now"] ∧
    (∃ chain : List (Nat × Path), chain.IsChain (Derives detour) ∧
      chain.map (fun a => a.2.stage) = [.host, .logical, .memory] ∧
      (chain.map fun a => a.2.stage).IsChain Stage.Leads) ∧
    Ordered.Ascending compare [Stage.host, .logical, .memory] := by
  obtain ⟨-, adapted, -, forbidden, derived, staged⟩ := memory_only_through_logical detour
  have there : (trail detour)[2]? = some (.memory ⟨⟨"host", "../etc"⟩, "hash", "now"⟩) := rfl
  have unnamed : ∀ space key, .logical space key ∉ detour := by
    simp [detour]
  obtain ⟨j, before, logicalThere, resolves, k, first, h, hostThere, adapts, -, key⟩ :=
    adapted unnamed 2 _ there
  have chain : [(k, Path.host h), (j, .logical ⟨"host", "../etc"⟩),
      (2, .memory ⟨⟨"host", "../etc"⟩, "hash", "now"⟩)].IsChain (Derives detour) :=
    .cons_cons adapts (.cons_cons resolves (.singleton _))
  have legal := derived _ chain
  exact ⟨there, ⟨j, before, logicalThere, k, first, h, hostThere, key⟩,
    forbidden [.host "../etc", .adapt 0] 0 _ rfl,
    ⟨_, chain, (staged _ legal).2 rfl rfl, legal⟩, (staged _ legal).1⟩

end Clearance

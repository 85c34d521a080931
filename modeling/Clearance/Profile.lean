/-
# Clearance.Profile -- one label on each dimension

A profile states what a command requires; a context states what its caller
holds.  Both have the same five labels, and only the wrapper tells them apart.

`Profile.ofPairs` builds a profile from named labels.  The first name that is
no dimension is refused before anything is said of what is missing; a repeated
name takes its last label; of several missing dimensions the first in canonical
order is named.
-/
import Clearance.Label
import Clearance.Dimension

namespace Clearance

set_option autoImplicit false

structure Profile where
  host : Label
  context : Label
  runtime : Label
  command : Label
  financial : Label
deriving DecidableEq

/-- Why named labels do not make a profile. -/
inductive ProfileError where
  | missing (dimension : Dimension)
  | unknown (name : String)
deriving DecidableEq

namespace ProfileError

def message : ProfileError → String
  | missing d => "missing capability dimension: " ++ d.name
  | unknown name => "unknown capability dimension: " ++ name

end ProfileError

/-- The dimension a name stands for. -/
def Dimension.parse (text : String) : Except ProfileError Dimension :=
  match ofName? text with
  | some d => .ok d
  | none => .error (.unknown text)

/-- Labels on some of the dimensions. -/
abbrev Slots := Dimension → Option Label

namespace Slots

def empty : Slots :=
  fun _ => none

def set (slots : Slots) (d : Dimension) (l : Label) : Slots :=
  fun e => if e = d then some l else slots e

@[simp] theorem set_self (slots : Slots) (d : Dimension) (l : Label) :
    slots.set d l d = some l := by
  simp [set]

theorem set_of_ne (slots : Slots) {d e : Dimension} (l : Label) (ne : e ≠ d) :
    slots.set d l e = slots e := by
  simp [set, ne]

end Slots

namespace Profile

/-- The same label on every dimension. -/
def uniform (l : Label) : Profile :=
  ⟨l, l, l, l, l⟩

def get (p : Profile) : Dimension → Label
  | .host => p.host
  | .context => p.context
  | .runtime => p.runtime
  | .command => p.command
  | .financial => p.financial

/-- The profile with one label replaced. -/
def set (p : Profile) (d : Dimension) (l : Label) : Profile :=
  match d with
  | .host => { p with host := l }
  | .context => { p with context := l }
  | .runtime => { p with runtime := l }
  | .command => { p with command := l }
  | .financial => { p with financial := l }

/-- The five labels in canonical order. -/
def labels (p : Profile) : List Label :=
  Dimension.all.map p.get

/-- The profile of filled slots, or the first dimension whose slot is empty. -/
def ofSlots (slots : Slots) : Except ProfileError Profile := do
  let host ← fill .host
  let context ← fill .context
  let runtime ← fill .runtime
  let command ← fill .command
  let financial ← fill .financial
  return { host, context, runtime, command, financial }
where
  fill (d : Dimension) : Except ProfileError Label :=
    match slots d with
    | some l => .ok l
    | none => .error (.missing d)

/-- Put one named label into its slot. -/
def place (slots : Slots) (pair : String × Label) : Except ProfileError Slots :=
  (Dimension.parse pair.1).map fun d => slots.set d pair.2

/-- The profile named labels describe. -/
def ofPairs (pairs : List (String × Label)) : Except ProfileError Profile :=
  (pairs.foldlM place Slots.empty).bind ofSlots

@[simp] theorem get_uniform (l : Label) (d : Dimension) : (uniform l).get d = l := by
  cases d <;> rfl

@[simp] theorem get_set_self (p : Profile) (d : Dimension) (l : Label) :
    (p.set d l).get d = l := by
  cases d <;> rfl

theorem get_set_of_ne (p : Profile) {d e : Dimension} (l : Label) (ne : e ≠ d) :
    (p.set d l).get e = p.get e := by
  cases d <;> cases e <;> first | rfl | exact absurd rfl ne

theorem length_labels (p : Profile) : p.labels.length = 5 :=
  rfl

theorem labels_ne_nil (p : Profile) : p.labels ≠ [] :=
  List.cons_ne_nil _ _

theorem ofSlots_get (p : Profile) : ofSlots (fun d => some (p.get d)) = .ok p := by
  cases p; rfl

section

variable {slots : Slots} {d : Dimension} {p : Profile}

theorem ofSlots_of_first_empty
    (first : Dimension.all.find? (fun d => (slots d).isNone) = some d) :
    ofSlots slots = .error (.missing d) := by
  revert first
  simp only [Dimension.all, List.find?_cons, List.find?_nil, ofSlots, ofSlots.fill]
  cases slots .host with
  | none => rintro ⟨⟩; rfl
  | some host =>
  cases slots .context with
  | none => rintro ⟨⟩; rfl
  | some context =>
  cases slots .runtime with
  | none => rintro ⟨⟩; rfl
  | some runtime =>
  cases slots .command with
  | none => rintro ⟨⟩; rfl
  | some command =>
  cases slots .financial with
  | none => rintro ⟨⟩; rfl
  | some financial => rintro ⟨⟩

/-- Slots have a first empty one, or they are those of a profile. -/
theorem first_empty_or_filled (slots : Slots) :
    (∃ d, Dimension.all.find? (fun d => (slots d).isNone) = some d) ∨
      ∃ p : Profile, slots = fun d => some (p.get d) := by
  cases first : Dimension.all.find? (fun d => (slots d).isNone) with
  | some d => exact .inl ⟨d, rfl⟩
  | none =>
      have filled : ∀ d, (slots d).isSome := fun d => by
        simpa [Option.isSome_iff_ne_none] using
          List.find?_eq_none.1 first d (Dimension.mem_all d)
      refine .inr ⟨⟨(slots .host).get (filled _), (slots .context).get (filled _),
        (slots .runtime).get (filled _), (slots .command).get (filled _),
        (slots .financial).get (filled _)⟩, ?_⟩
      funext d
      cases d <;> exact (Option.some_get _).symm

theorem ofSlots_eq_ok_iff : ofSlots slots = .ok p ↔ ∀ d, slots d = some (p.get d) := by
  constructor
  · intro made d
    rcases first_empty_or_filled slots with ⟨e, first⟩ | ⟨q, rfl⟩
    · rw [ofSlots_of_first_empty first] at made
      cases made
    · rw [ofSlots_get] at made
      cases made
      rfl
  · intro filled
    rw [← ofSlots_get p, ← funext filled]

/-- The first dimension whose slot is empty is missing. -/
theorem ofSlots_eq_error_iff {e : ProfileError} :
    ofSlots slots = .error e ↔
      ∃ d, .missing d = e ∧ slots d = none ∧
        ∀ f : Dimension, f.index < d.index → slots f ≠ none := by
  have first_iff : ∀ d, Dimension.all.find? (fun d => (slots d).isNone) = some d ↔
      slots d = none ∧ ∀ f : Dimension, f.index < d.index → slots f ≠ none := fun d => by
    simp only [Dimension.find?_all_eq_some_iff, Option.isNone_iff_eq_none,
      Option.isNone_eq_false_iff, Option.isSome_iff_ne_none]
  simp only [← first_iff]
  constructor
  · intro failed
    rcases first_empty_or_filled slots with ⟨d, first⟩ | ⟨p, rfl⟩
    · rw [ofSlots_of_first_empty first] at failed
      exact ⟨d, Except.error.inj failed, first⟩
    · rw [ofSlots_get] at failed
      cases failed
  · rintro ⟨d, rfl, first⟩
    exact ofSlots_of_first_empty first

end

end Profile

/-- What the caller of a command holds. -/
structure Context where
  profile : Profile
deriving DecidableEq

namespace Context

def get (c : Context) (d : Dimension) : Label :=
  c.profile.get d

def labels (c : Context) : List Label :=
  c.profile.labels

end Context

end Clearance

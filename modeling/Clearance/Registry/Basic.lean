/-
# Clearance.Registry.Basic -- the commands a gate knows

A registry is a finite map from names to entries, each found under its own name.
It is kept as the list of its entries by ascending name, so equal registries are
equal maps, and an entry put in replaces the one with its name.  The names are the
keys, and there are no others: every entry is put in under its own name.

`CommandSource` is all a gate asks of a registry: what is registered under a
name, and which names there are.
-/
import Clearance.Registry.Entry

namespace Clearance

set_option autoImplicit false

/-- Something that commands can be looked up in. -/
class CommandSource (ρ : Type) where
  get? : ρ → String → Option Entry
  names : ρ → List String

namespace CommandSource

def contains {ρ : Type} [CommandSource ρ] (source : ρ) (name : String) : Bool :=
  (get? source name).isSome

end CommandSource

/-- Entries by ascending name. -/
structure Registry where
  entries : List Entry
  ascending : Ordered.Ascending Entry.compareNames entries

namespace Registry

/-- Two registries are the same when their entries are. -/
theorem ext_entries {r s : Registry} (same : r.entries = s.entries) : r = s := by
  cases r; cases s
  cases same
  rfl

instance : DecidableEq Registry := fun r s =>
  decidable_of_iff (r.entries = s.entries) ⟨ext_entries, fun h => h ▸ rfl⟩

def empty : Registry :=
  ⟨[], List.Pairwise.nil⟩

def get? (r : Registry) (name : String) : Option Entry :=
  r.entries.find? fun e => e.name = name

/-- All names in ascending order. -/
def names (r : Registry) : List String :=
  r.entries.map Entry.name

def size (r : Registry) : Nat :=
  r.entries.length

def isEmpty (r : Registry) : Bool :=
  r.entries.isEmpty

instance : CommandSource Registry where
  get? := get?
  names := names

/-- The registry with one entry more, in place of any with its name. -/
def withEntry (r : Registry) (e : Entry) : Registry :=
  ⟨Ordered.insert Entry.compareNames e r.entries, Ordered.ascending_insert e r.ascending⟩

/-- Put an entry in; the answer is the one it replaces, and the registry. -/
def insert (r : Registry) (e : Entry) : Option Entry × Registry :=
  (r.get? e.name, r.withEntry e)

/-- The registry of some entries; of several with one name, the last. -/
def ofEntries (es : List Entry) : Registry :=
  es.foldl withEntry empty

@[simp] theorem get?_empty (name : String) : empty.get? name = none :=
  rfl

@[simp] theorem get?_withEntry_self (r : Registry) (e : Entry) :
    (r.withEntry e).get? e.name = some e := by
  apply Ordered.find?_insert_self
  · simp
  · intro f named
    exact Entry.compareNames_eq_iff.2 (of_decide_eq_true named).symm

theorem get?_withEntry_of_ne (r : Registry) {e : Entry} {name : String} (ne : e.name ≠ name) :
    (r.withEntry e).get? name = r.get? name := by
  apply Ordered.find?_insert_of_not
  · simpa using ne
  · intro f same
    simpa [← Entry.compareNames_eq_iff.1 same] using ne

/-- An entry is found under its own name only. -/
theorem name_of_get? {r : Registry} {name : String} {e : Entry} (found : r.get? name = some e) :
    e.name = name := by
  simpa using List.find?_some found

end Registry

end Clearance

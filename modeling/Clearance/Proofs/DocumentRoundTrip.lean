/-
# Clearance.Proofs.DocumentRoundTrip -- a registry comes back from its document

The document of a registry has each entry under its name.  Reading it makes the
registry again (`document_reads_back`): the keys ascend already and each is there once, so
as a value the document is in the order of the registry; each value is read as its entry;
and the entries of a registry make that registry.

The entry under a key has a name of its own, which says nothing: left out or replaced by
any other, it is overridden by the key (`documentNaming`).
-/
import Clearance.Proofs.LastEntry
import Clearance.Proofs.WireRoundTrip
import Clearance.Registry.Document

namespace Clearance.Registry

open Clearance.Json

set_option autoImplicit false

/-- An entry with the name given for it in place of its own, or with none. -/
def entryNaming (given : String → Option String) (e : Entry) : Value :=
  .object (Wire.entryMembers (given e.name) (Wire.encode e.required) e.description)

/-- The entry of each command under its name, but for the names that the entries carry. -/
def documentNaming (r : Registry) (given : String → Option String) : Value :=
  .object [("commands", .object (r.names.filterMap fun name =>
    (r.get? name).map fun e => (name, entryNaming given e)))]

/-- What is found under the names of a registry, one after the other, are its entries. -/
theorem filterMap_names {β : Type} (r : Registry) (f : String → Entry → β) :
    (r.names.filterMap fun name => (r.get? name).map (f name)) =
      r.entries.map fun e => f e.name e := by
  have found : ∀ e ∈ r.entries, (r.get? e.name).map (f e.name) = some (f e.name e) := by
    intro e listed
    rw [get?_eq_some_iff.2 ⟨listed, rfl⟩, Option.map_some]
  rw [names, List.filterMap_map, ← List.filterMap_eq_map]
  exact List.filterMap_congr found

theorem documentNaming_eq (r : Registry) (given : String → Option String) :
    r.documentNaming given =
      .object [("commands", .object (r.entries.map fun e => (e.name, entryNaming given e)))] := by
  rw [documentNaming, filterMap_names]

theorem documentNaming_some (r : Registry) : r.documentNaming some = r.document :=
  r.documentNaming_eq some

/-- Of an entry all but its name is read as it was. -/
theorem ofValue_entryNaming (given : String → Option String) (e : Entry) :
    Wire.ofValue Entry (entryNaming given e).canonical =
      .ok { e with name := (given e.name).getD "" } :=
  Wire.decodeEntry_canonical_entryMembers ..

/-- Entries under their names are put in one by one, whatever names they carry. -/
theorem readCommands_entryNaming (given : String → Option String) (es : List Entry)
    (r : Registry) :
    r.readCommands (es.map fun e => (e.name, (entryNaming given e).canonical)) =
      .ok (es.foldl withEntry r) := by
  induction es generalizing r with
  | nil => rfl
  | cons e es ih =>
      simp only [List.map_cons, readCommands, ofValue_entryNaming]
      exact ih (r.withEntry e)

/-- As a value the document keeps its commands in the order of the registry. -/
theorem canonical_documentNaming (r : Registry) (given : String → Option String) :
    (r.documentNaming given).canonical =
      .object [("commands",
        .object (r.entries.map fun e => (e.name, (entryNaming given e).canonical)))] := by
  have commands :
      Ordered.ofList compareKeys
          (Value.canonicalMembers (r.entries.map fun e => (e.name, entryNaming given e))) =
        r.entries.map fun e => (e.name, (entryNaming given e).canonical) := by
    rw [Value.canonicalMembers_eq_map, List.map_map]
    exact Ordered.ofList_of_ascending (List.pairwise_map.2 r.ascending)
  rw [documentNaming_eq]
  -- An object with one member has one order.
  exact congrArg (fun commands => Value.object [("commands", .object commands)]) commands

/-- **A registry comes back from its document.**  So it does when any of the entries in it
carry no name, or any other than their own.  This holds of every registry, and each is
made of entries put in one by one (`ofEntries_entries`). -/
theorem document_reads_back (r : Registry) (given : String → Option String) :
    ofDocument r.document.canonical = .ok r ∧
    ofDocument (r.documentNaming given).canonical = .ok r := by
  have read : ∀ given, ofDocument (r.documentNaming given).canonical = .ok r := by
    intro given
    rw [canonical_documentNaming]
    refine ofDocument_eq_ok_iff.2 ⟨_, rfl, ?_⟩
    rw [readCommands_entryNaming]
    exact congrArg _ r.ofEntries_entries
  exact ⟨r.documentNaming_some ▸ read some, read given⟩

end Clearance.Registry

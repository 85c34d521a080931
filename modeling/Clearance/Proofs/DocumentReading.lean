/-
# Clearance.Proofs.DocumentReading -- what a document is read as

The commands of a document are read one after the other, and the first that is no entry ends
it.  A document as a value has its commands by ascending key, so the first bad command is
the one with the least key, whatever stands under the others
(`Ordered.findSome?_eq_some_iff_of_ascending`).

Where no command is bad every one is registered, under its key and not under the name it
carries.  Keys are distinct, so none is put in over another (`get?_of_readCommands`), and
nothing else is put in, so the names of the registry are the keys (`names_of_readCommands`).

These are all the cases (`Reading`): a document is read as what its case says, and in no
other way (`ofDocument_reads_exactly`).
-/
import Clearance.Proofs.LastEntry
import Clearance.Request

namespace Clearance.Registry

open Clearance.Json

set_option autoImplicit false

/-! ## The first bad command -/

/-- What is wrong with the command under a key. -/
def commandFault? (command : String × Value) : Option DocumentFault :=
  match Wire.ofValue Entry command.2 with
  | .ok _ => none
  | .error cause => some (.badCommand command.1 cause)

theorem commandFault?_eq_none_iff {command : String × Value} :
    commandFault? command = none ↔ ∃ e, Wire.ofValue Entry command.2 = .ok e := by
  unfold commandFault?
  cases Wire.ofValue Entry command.2 <;> simp

theorem commandFault?_eq_some_iff {command : String × Value} {fault : DocumentFault} :
    commandFault? command = some fault ↔
      ∃ cause, Wire.ofValue Entry command.2 = .error cause ∧
        .badCommand command.1 cause = fault := by
  unfold commandFault?
  cases Wire.ofValue Entry command.2 <;> simp

theorem readCommands_eq_error_iff {r : Registry} {commands : List (String × Value)}
    {fault : DocumentFault} :
    r.readCommands commands = .error fault ↔ commands.findSome? commandFault? = some fault := by
  induction commands generalizing r with
  | nil => simp [readCommands]
  | cons command rest ih =>
      obtain ⟨name, v⟩ := command
      cases decoded : Wire.ofValue Entry v with
      | ok e =>
          have sound : commandFault? (name, v) = none := commandFault?_eq_none_iff.2 ⟨e, decoded⟩
          simp only [readCommands, decoded, List.findSome?_cons, sound, ih]
      | error cause =>
          have bad : commandFault? (name, v) = some (.badCommand name cause) :=
            commandFault?_eq_some_iff.2 ⟨cause, decoded, rfl⟩
          simp only [readCommands, decoded, List.findSome?_cons, bad, Except.error.injEq,
            Option.some.injEq]

theorem exists_readCommands_eq_ok_iff {r : Registry} {commands : List (String × Value)} :
    (∃ s, r.readCommands commands = .ok s) ↔
      ∀ m ∈ commands, ∃ e, Wire.ofValue Entry m.2 = .ok e := by
  simp only [← commandFault?_eq_none_iff, ← List.findSome?_eq_none_iff]
  constructor
  · rintro ⟨s, read⟩
    rw [Option.eq_none_iff_forall_ne_some]
    intro fault found
    rw [readCommands_eq_error_iff.2 found] at read
    cases read
  · intro silent
    cases read : r.readCommands commands with
    | ok s => exact ⟨s, rfl⟩
    | error fault =>
        rw [readCommands_eq_error_iff.1 read] at silent
        cases silent

/-! ## The commands of a registry -/

/-- The entry a value describes, under the key it stands under. -/
def entryUnder (name : String) (v : Value) : Option Entry :=
  (Wire.ofValue Entry v).toOption.map fun e => { e with name }

/-- Of commands with distinct keys each is found under its own key, and reading them
leaves the other names as they were. -/
theorem get?_of_readCommands {r s : Registry} {commands : List (String × Value)}
    (distinct : (commands.map Prod.fst).Nodup) (read : r.readCommands commands = .ok s)
    (name : String) :
    s.get? name = ((commands.lookup name).map (entryUnder name)).getD (r.get? name) := by
  induction commands generalizing r with
  | nil =>
      cases read
      rfl
  | cons command rest ih =>
      obtain ⟨key, v⟩ := command
      obtain ⟨alone, distinct⟩ := List.nodup_cons.1 distinct
      cases decoded : Wire.ofValue Entry v with
      | error fault =>
          simp only [readCommands, decoded] at read
          cases read
      | ok e =>
          simp only [readCommands, decoded] at read
          rw [ih distinct read]
          by_cases same : name = key
          · subst same
            have absent : rest.lookup name = none := Ordered.lookup_eq_none_iff_not_mem.2 alone
            simp only [absent, List.lookup_cons_self, Option.map_none, Option.map_some,
              Option.getD_none, Option.getD_some, entryUnder, decoded, Except.toOption]
            exact get?_withEntry_self r { e with name }
          · rw [List.lookup_cons, beq_false_of_ne same, get?_withEntry_of_ne r (Ne.symm same)]

section

variable {s : Registry} {commands : List (String × Value)} {name : String}

/-- A command is registered under its key. -/
theorem get?_of_mem (distinct : (commands.map Prod.fst).Nodup)
    (read : empty.readCommands commands = .ok s) {v : Value} {e : Entry}
    (member : (name, v) ∈ commands) (decoded : Wire.ofValue Entry v = .ok e) :
    s.get? name = some { e with name } := by
  have found : commands.lookup name = some v :=
    (Ordered.lookup_eq_some_iff_of_nodup distinct).2 member
  rw [get?_of_readCommands distinct read, found, Option.map_some, Option.getD_some, entryUnder,
    decoded, Except.toOption, Option.map_some]

/-- Under what is no key nothing is registered. -/
theorem get?_of_not_mem (distinct : (commands.map Prod.fst).Nodup)
    (read : empty.readCommands commands = .ok s) (absent : name ∉ commands.map Prod.fst) :
    s.get? name = none := by
  rw [get?_of_readCommands distinct read, Ordered.lookup_eq_none_iff_not_mem.2 absent,
    Option.map_none, Option.getD_none, get?_empty]

/-- Commands by ascending key make a registry with their keys as names. -/
theorem names_of_readCommands (ascending : Ordered.Ascending compareKeys commands)
    (read : empty.readCommands commands = .ok s) : s.names = commands.map Prod.fst := by
  have distinct := Ordered.nodup_map_of_ascending ascending
  have names : Ordered.Ascending compare s.names := List.pairwise_map.2 s.ascending
  have keys : Ordered.Ascending compare (commands.map Prod.fst) := List.pairwise_map.2 ascending
  refine Ordered.eq_of_ascending names keys fun name => ?_
  rw [mem_names_iff]
  constructor
  · intro there
    by_contra absent
    rw [get?_of_not_mem distinct read absent] at there
    cases there
  · intro key
    obtain ⟨⟨name, v⟩, member, rfl⟩ := List.mem_map.1 key
    obtain ⟨e, decoded⟩ := exists_readCommands_eq_ok_iff.1 ⟨s, read⟩ _ member
    rw [get?_of_mem distinct read member decoded, Option.isSome_some]

end

/-! ## The cases of a document -/

/-- What becomes of a document.  Without an object of commands it is malformed.  With one, it
is malformed if some command is no entry, and the one with the least key is named with
what is wrong with it.  If every command is one it makes a registry whose names are the
keys, each with the entry that stands under it. -/
inductive Reading (doc : Value) : Except RegistryError Registry → Prop
  | noCommands (absent : ∀ commands, doc.member? "commands" ≠ some (.object commands)) :
      Reading doc (.error (.malformedDocument "missing `commands` object"))
  | badCommand {commands : List (String × Value)} {name : String} {v : Value} {cause : Wire.Fault}
      (found : doc.member? "commands" = some (.object commands)) (member : (name, v) ∈ commands)
      (bad : Wire.ofValue Entry v = .error cause)
      (least : ∀ k w, (k, w) ∈ commands → Text.bytes k < Text.bytes name →
        ∃ e, Wire.ofValue Entry w = .ok e) :
      Reading doc
        (.error (.malformedDocument ("command " ++ Wire.ticked name ++ ": " ++ cause.message)))
  | registry {commands : List (String × Value)} {r : Registry}
      (found : doc.member? "commands" = some (.object commands))
      (names : r.names = commands.map Prod.fst)
      (entries : ∀ k v, (k, v) ∈ commands →
        ∃ e, Wire.ofValue Entry v = .ok e ∧ r.get? k = some { e with name := k }) :
      Reading doc (.ok r)

theorem answer_ofDocumentLogged (doc : Value) :
    (ofDocumentLogged doc).answer =
      (ofDocument doc).mapError fun fault => .malformedDocument fault.message := by
  unfold ofDocumentLogged
  cases ofDocument doc <;> rfl

theorem ofDocument_of_absent {doc : Value}
    (absent : ∀ commands, doc.member? "commands" ≠ some (.object commands)) :
    ofDocument doc = .error .noCommands := by
  unfold ofDocument
  split
  · rename_i commands found
    exact absurd found (absent commands)
  · rfl

theorem ofDocument_of_found {doc : Value} {commands : List (String × Value)}
    (found : doc.member? "commands" = some (.object commands)) :
    ofDocument doc = empty.readCommands commands := by
  rw [ofDocument, found]

/-- The commands of a document ascend by their keys. -/
theorem ascending_commands {doc : Value} {commands : List (String × Value)}
    (found : doc.canonical.member? "commands" = some (.object commands)) :
    Ordered.Ascending compareKeys commands := by
  obtain ⟨given, canonical⟩ := Value.exists_canonical_of_member? found
  exact Value.ascending_of_canonical_eq canonical.symm

/-- Of commands by ascending key the bad one with the least key is the fault. -/
theorem readCommands_eq_error_iff_least {r : Registry} {commands : List (String × Value)}
    (ascending : Ordered.Ascending compareKeys commands) {fault : DocumentFault} :
    r.readCommands commands = .error fault ↔
      ∃ name v cause, (name, v) ∈ commands ∧ Wire.ofValue Entry v = .error cause ∧
        fault = .badCommand name cause ∧
        ∀ k w, (k, w) ∈ commands → Text.bytes k < Text.bytes name →
          ∃ e, Wire.ofValue Entry w = .ok e := by
  rw [readCommands_eq_error_iff, Ordered.findSome?_eq_some_iff_of_ascending ascending]
  constructor
  · rintro ⟨⟨name, v⟩, member, bad, silent⟩
    obtain ⟨cause, failed, rfl⟩ := commandFault?_eq_some_iff.1 bad
    refine ⟨name, v, cause, member, failed, rfl, fun k w there less => ?_⟩
    exact commandFault?_eq_none_iff.1 (silent (k, w) there (Text.bytes_lt_iff_compare.1 less))
  · rintro ⟨name, v, cause, member, failed, rfl, least⟩
    refine ⟨(name, v), member, commandFault?_eq_some_iff.2 ⟨cause, failed, rfl⟩, ?_⟩
    rintro ⟨k, w⟩ there less
    exact commandFault?_eq_none_iff.2 (least k w there (Text.bytes_lt_iff_compare.2 less))

theorem reading_ofDocument (doc : Value) :
    Reading doc.canonical (ofDocumentLogged doc.canonical).answer := by
  rw [answer_ofDocumentLogged]
  by_cases there : ∃ commands, doc.canonical.member? "commands" = some (.object commands)
  · obtain ⟨commands, found⟩ := there
    have ascending := ascending_commands found
    rw [ofDocument_of_found found]
    cases read : empty.readCommands commands with
    | error fault =>
        obtain ⟨name, v, cause, member, bad, rfl, least⟩ :=
          (readCommands_eq_error_iff_least ascending).1 read
        exact .badCommand found member bad least
    | ok s =>
        refine .registry found (names_of_readCommands ascending read) fun k v member => ?_
        obtain ⟨e, decoded⟩ := exists_readCommands_eq_ok_iff.1 ⟨s, read⟩ _ member
        have distinct := Ordered.nodup_map_of_ascending ascending
        exact ⟨e, decoded, get?_of_mem distinct read member decoded⟩
  · have absent : ∀ commands, doc.canonical.member? "commands" ≠ some (.object commands) :=
      fun commands found => there ⟨commands, found⟩
    rw [ofDocument_of_absent absent]
    exact .noCommands absent

/-- A registry is determined by its names and by what is found under them. -/
theorem ext_names {r s : Registry} (names : r.names = s.names)
    (found : ∀ name ∈ r.names, r.get? name = s.get? name) : r = s := by
  refine ext_get? fun name => ?_
  by_cases there : name ∈ r.names
  · exact found name there
  · have missed : ∀ q : Registry, name ∉ q.names → q.get? name = none := fun q absent => by
      rwa [mem_names_iff, Option.not_isSome_iff_eq_none] at absent
    rw [missed r there, missed s (names ▸ there)]

/-- Commands by ascending key are read as the registry that has the entry of each. -/
theorem readCommands_eq_ok_of_entries {r : Registry} {commands : List (String × Value)}
    (ascending : Ordered.Ascending compareKeys commands) (names : r.names = commands.map Prod.fst)
    (entries : ∀ k v, (k, v) ∈ commands →
      ∃ e, Wire.ofValue Entry v = .ok e ∧ r.get? k = some { e with name := k }) :
    empty.readCommands commands = .ok r := by
  have distinct := Ordered.nodup_map_of_ascending ascending
  obtain ⟨s, read⟩ := exists_readCommands_eq_ok_iff.2 fun m member =>
    (entries m.1 m.2 member).imp fun _ => And.left
  have keys := names_of_readCommands ascending read
  have same : s = r := by
    refine ext_names (keys.trans names.symm) fun name there => ?_
    rw [keys] at there
    obtain ⟨⟨name, v⟩, member, rfl⟩ := List.mem_map.1 there
    obtain ⟨e, decoded, stored⟩ := entries name v member
    rw [get?_of_mem distinct read member decoded, stored]
  rw [read, same]

/-- **A document is read exactly as its case says.**  The cases do not overlap, and one of
them always applies. -/
theorem ofDocument_reads_exactly (doc : Value) (x : Except RegistryError Registry) :
    (ofDocumentLogged doc.canonical).answer = x ↔ Reading doc.canonical x := by
  constructor
  · rintro rfl
    exact reading_ofDocument doc
  · intro reading
    rw [answer_ofDocumentLogged]
    cases reading with
    | noCommands absent => rw [ofDocument_of_absent absent]; rfl
    | @badCommand commands name v cause found member bad least =>
        have failed : empty.readCommands commands = .error (.badCommand name cause) :=
          (readCommands_eq_error_iff_least (ascending_commands found)).2
            ⟨name, v, cause, member, bad, rfl, least⟩
        rw [ofDocument_of_found found, failed]
        rfl
    | registry found names entries =>
        rw [ofDocument_of_found found,
          readCommands_eq_ok_of_entries (ascending_commands found) names entries]
        rfl

/-- Of two bad commands the one with the lesser key, wherever it stands. -/
example :
    (ofDocumentLogged (Value.object [("commands", .object [
      ("wipe", .null), ("deploy", .object [("name", .string "deploy")])])]).canonical).answer =
      .error (.malformedDocument
        "command `deploy`: missing field `required_capabilities`") :=
  rfl

end Clearance.Registry

/-
# Clearance.Proofs.CommandIsolation -- commands do not interfere

A document is read command by command, each value is decoded with whatever name it
carries, and the entries go into one registry.  Still the registry has under a name
what the document has under that key (`get?_of_ofDocument`): a document as a value, its
objects without order, is canonical and has each key once, so no other command is put
in under it, and the name inside a value is replaced by its key before it is put in.

So documents that agree under one name, or both have nothing there, admit requests for
it alike, and an entry that is put in under another name changes nothing for it
(`commands_do_not_interfere`).
-/
import Clearance.Proofs.Admission
import Clearance.Proofs.DocumentReading
import Clearance.Reference.Fixture

namespace Clearance

open Clearance.Json

set_option autoImplicit false

namespace Registry

/-- What a document has under the name of a command. -/
def commandIn? (doc : Value) (name : String) : Option Value :=
  (doc.member? "commands").bind (Value.member? name)

/-- The registry of a document has under a name what the document has there. -/
theorem get?_of_ofDocument {doc : Value} {r : Registry}
    (accepted : ofDocument doc.canonical = .ok r) (name : String) :
    r.get? name = (commandIn? doc.canonical name).bind (entryUnder name) := by
  obtain ⟨commands, found, read⟩ := ofDocument_eq_ok_iff.1 accepted
  obtain ⟨given, canonical⟩ := Value.exists_canonical_of_member? found
  have distinct := Value.nodup_keys_of_canonical_eq canonical.symm
  rw [get?_of_readCommands distinct read, commandIn?, found, Option.bind_some, Value.member?]
  cases commands.lookup name <;> rfl

end Registry

namespace Gatekeeper

/-- **Commands do not interfere.**  Where two documents describe registries and agree on
what they have under a name, be it nothing, a request for it comes out the same over
both, decision or error, and leaves the same events.  And an entry put in under another
name, a new one or in place of one, changes nothing for it. -/
theorem commands_do_not_interfere (table : MeetTable) (mode : Mode) (validator : ArgsValidator)
    (c : Context) (name : String) (args : Value) :
    (∀ (doc doc' : Value) (r r' : Registry),
      Registry.ofDocument doc.canonical = .ok r →
      Registry.ofDocument doc'.canonical = .ok r' →
      Registry.commandIn? doc.canonical name = Registry.commandIn? doc'.canonical name →
        (Gatekeeper.mk table r mode validator).admission c name args =
          (Gatekeeper.mk table r' mode validator).admission c name args) ∧
    ∀ (r : Registry) (e : Entry), e.name ≠ name →
      (Gatekeeper.mk table (r.insert e).2 mode validator).admission c name args =
        (Gatekeeper.mk table r mode validator).admission c name args := by
  refine ⟨fun doc doc' r r' accepted accepted' agree => ?_, fun r e other => ?_⟩
  · have same : r.get? name = r'.get? name := by
      rw [Registry.get?_of_ofDocument accepted, Registry.get?_of_ofDocument accepted', agree]
    exact admission_congr c name args rfl rfl rfl same
  · exact admission_congr c name args rfl rfl rfl (Registry.get?_withEntry_of_ne r other)

/-- An entry that goes by the name `status`, wherever it stands. -/
def impostor : Value :=
  .object [("name", .string "status"),
    ("required_capabilities", Reference.profileObject "ROOT" "ROOT" "ROOT" "ROOT" "AUDIT")]

/-- The `status` of the reference document between two others that go by its name. -/
def crowded : Value :=
  .object [("commands", .object [
    ("wipe", impostor),
    ("status", .object [
      ("description", .string "read-only health check"),
      ("required_capabilities",
        Reference.profileObject "LOCAL" "LOCAL" "LOCAL" "LOCAL" "LOCAL")]),
    ("audit-export", impostor)])]

/-- The registry of the crowded document. -/
def crowdedRegistry : Registry :=
  (Registry.ofDocument crowded.canonical).toOption.get (by decide)

/-- Over the crowded document `status` is decided as over the reference document, `purge`
is as unknown as there, and an entry put in as `wipe` leaves `status` as it was. -/
theorem crowded_does_not_interfere :
    Registry.ofDocument Reference.document.canonical = .ok Reference.registry ∧
    Registry.ofDocument crowded.canonical = .ok crowdedRegistry ∧
    crowdedRegistry.get? "wipe" ≠ Reference.registry.get? "wipe" ∧
    ((Gatekeeper.mk Reference.table crowdedRegistry .pairwise .noArguments).admission
      ⟨.uniform ⟨"ROOT"⟩⟩ "status" (.object [])).answer = .ok .allow ∧
    ((Gatekeeper.mk Reference.table crowdedRegistry .pairwise .noArguments).admission
      ⟨.uniform ⟨"ROOT"⟩⟩ "purge" (.object [])).answer =
        .error (.registry (.unknownCommand "purge")) ∧
    ((Gatekeeper.mk Reference.table
      (Reference.registry.insert ⟨"wipe", .uniform ⟨"AUDIT"⟩, none⟩).2 .pairwise
      .noArguments).admission ⟨.uniform ⟨"ROOT"⟩⟩ "status" (.object [])).answer =
        .ok .allow := by
  have read : Registry.ofDocument Reference.document.canonical = .ok Reference.registry := rfl
  have readCrowded : Registry.ofDocument crowded.canonical = .ok crowdedRegistry := rfl
  obtain ⟨present, inserting⟩ := commands_do_not_interfere Reference.table .pairwise .noArguments
    ⟨.uniform ⟨"ROOT"⟩⟩ "status" (.object [])
  obtain ⟨absent, -⟩ := commands_do_not_interfere Reference.table .pairwise .noArguments
    ⟨.uniform ⟨"ROOT"⟩⟩ "purge" (.object [])
  refine ⟨read, readCrowded, by decide, ?_, ?_, ?_⟩
  · rw [present crowded Reference.document _ _ readCrowded read rfl]
    rfl
  · rw [absent crowded Reference.document _ _ readCrowded read rfl]
    rfl
  · rw [inserting Reference.registry _ (by decide)]
    rfl

end Gatekeeper

end Clearance

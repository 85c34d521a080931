/-
# Clearance.Proofs.LastEntry -- a registry is the last entry of each name

Entries are put into a registry one by one, and each replaces the one that has its name.
So of any sequence of entries the registry has under a name the last one with that name
(`get?_ofEntries`), and nothing else of the sequence matters: not its order beyond that,
nor how often an entry was replaced.

What an observer sees besides is determined by what is found under each name.  The names
are those something is found under (`mem_names_iff`), once each and in ascending order,
by bytes as by code points (`names_ascending`), and registries that find the same
entries are the same (`ext_get?`).

A registry keeps no keys, because an entry's key is its name.  With keys of their own
the entries would be pairs (`filed`), and those of any sequence are the entries of its
registry, each beside its name (`filed_eq`).
-/
import Mathlib.Data.List.Induction
import Clearance.Proofs.ByteOrder
import Clearance.Registry.Basic

namespace Clearance

set_option autoImplicit false

namespace Registry

/-! ## What is found under a name -/

/-- The last of some entries that has the name. -/
def lastNamed? (es : List Entry) (name : String) : Option Entry :=
  (es.filter fun e => e.name = name).getLast?

@[simp] theorem lastNamed?_concat_self (es : List Entry) (e : Entry) :
    lastNamed? (es ++ [e]) e.name = some e := by
  simp [lastNamed?]

theorem lastNamed?_concat_of_ne (es : List Entry) {e : Entry} {name : String}
    (ne : e.name ≠ name) : lastNamed? (es ++ [e]) name = lastNamed? es name := by
  simp [lastNamed?, ne]

theorem ofEntries_concat (es : List Entry) (e : Entry) :
    ofEntries (es ++ [e]) = (ofEntries es).withEntry e := by
  simp only [ofEntries, List.foldl_append, List.foldl_cons, List.foldl_nil]

/-- Of a sequence of entries the last one with a name is found under it. -/
theorem get?_ofEntries (es : List Entry) (name : String) :
    (ofEntries es).get? name = lastNamed? es name := by
  induction es using List.reverseRecOn with
  | nil => rfl
  | append_singleton es e ih =>
      rw [ofEntries_concat]
      by_cases same : e.name = name
      · rw [← same, get?_withEntry_self, lastNamed?_concat_self]
      · rw [get?_withEntry_of_ne _ same, lastNamed?_concat_of_ne _ same, ih]

/-! ## What the entries of a registry are -/

variable {r s : Registry}

/-- An entry is found under its own name. -/
theorem get?_eq_some_iff {name : String} {e : Entry} :
    r.get? name = some e ↔ e ∈ r.entries ∧ e.name = name := by
  have shared : ∀ e f : Entry, decide (e.name = name) = true → decide (f.name = name) = true →
      Entry.compareNames e f = .eq := fun e f he hf =>
    Entry.compareNames_eq_iff.2 ((of_decide_eq_true he).trans (of_decide_eq_true hf).symm)
  rw [get?, Ordered.find?_eq_some_iff_of_ascending shared r.ascending, decide_eq_true_iff]

theorem mem_names_iff {name : String} : name ∈ r.names ↔ (r.get? name).isSome := by
  simp only [names, List.mem_map, Option.isSome_iff_exists, get?_eq_some_iff]

theorem names_ascending (r : Registry) :
    r.names.Pairwise fun m n => Text.bytes m < Text.bytes n := by
  refine List.pairwise_map.2 (r.ascending.imp fun {e f} less => ?_)
  exact Text.bytes_lt_iff_compare.2 less

/-- Registries that find the same entries are the same. -/
theorem ext_get? (same : ∀ name, r.get? name = s.get? name) : r = s := by
  refine ext_entries (Ordered.eq_of_ascending r.ascending s.ascending fun e => ?_)
  have stored : ∀ r : Registry, e ∈ r.entries ↔ r.get? e.name = some e := fun r => by
    rw [get?_eq_some_iff, and_iff_left rfl]
  rw [stored, stored, same]

theorem entries_ofEntries (es : List Entry) :
    (ofEntries es).entries = Ordered.ofList Entry.compareNames es :=
  (List.foldl_hom entries fun _ _ => rfl).symm

/-- A registry is what its own entries make, so every registry is made of entries. -/
theorem ofEntries_entries (r : Registry) : ofEntries r.entries = r :=
  ext_entries ((entries_ofEntries r.entries).trans (Ordered.ofList_of_ascending r.ascending))

/-! ## Entries under keys -/

/-- Put an entry in under its name, in place of what is under that key. -/
def file (pairs : List (String × Entry)) (e : Entry) : List (String × Entry) :=
  Ordered.insert (compareOn Prod.fst) (e.name, e) pairs

/-- The pairs of key and entry that some entries make, put in one by one. -/
def filed (es : List Entry) : List (String × Entry) :=
  es.foldl file []

/-- An entry beside its name. -/
def named (e : Entry) : String × Entry :=
  (e.name, e)

theorem file_map_named (es : List Entry) (e : Entry) :
    file (es.map named) e = (Ordered.insert Entry.compareNames e es).map named := by
  have byKey : ∀ e f : Entry,
      compareOn Prod.fst (named e) (named f) = Entry.compareNames e f := fun _ _ => rfl
  exact Ordered.insert_map byKey e es

/-- Every key has the entry of its name. -/
theorem filed_eq (es : List Entry) : filed es = (ofEntries es).entries.map named := by
  induction es using List.reverseRecOn with
  | nil => rfl
  | append_singleton es e ih =>
      have last : filed (es ++ [e]) = file (filed es) e := by
        simp only [filed, List.foldl_append, List.foldl_cons, List.foldl_nil]
      rw [last, ih, file_map_named, ofEntries_concat]
      rfl

/-- What is looked up under a key is found by the name. -/
theorem lookup_map_named (es : List Entry) (name : String) :
    (es.map named).lookup name = es.find? fun e => e.name = name := by
  induction es with
  | nil => rfl
  | cons e es ih =>
      rw [List.map_cons, named, List.lookup_cons, List.find?_cons, ih]
      by_cases same : e.name = name
      · simp [same]
      · simp [same, beq_false_of_ne (Ne.symm same)]

theorem lookup_filed (es : List Entry) (name : String) :
    (filed es).lookup name = (ofEntries es).get? name := by
  rw [filed_eq, lookup_map_named]
  rfl

theorem filed_eq_iff {es fs : List Entry} : filed es = filed fs ↔ ofEntries es = ofEntries fs := by
  have injective : Function.Injective named := fun _ _ => congrArg Prod.snd
  rw [filed_eq, filed_eq, injective.list_map.eq_iff]
  constructor
  · exact ext_entries
  · exact congrArg entries

/-! ## A registry as a finite map -/

/-- **A registry is the last entry of each name.**  Putting entries in one by one, by
`insert` or by `withEntry`, makes the registry of the sequence.  Under a name it has the
last entry with that name.  One more entry put in answers what was found under its
name, is found there afterwards, and changes nothing under other names.  What is found
under a name goes by that name, and where each entry is put in under a key, its name,
the keys stay the names, the same is found and the same registries are equal.  The names
are those something is found under, each before those with greater bytes; the size is
their number, and only an empty registry has none.  And two sequences make one registry
exactly when they agree on the last entry of every name. -/
theorem ofEntries_is_last_named (es : List Entry) :
    es.foldl (fun r e => (r.insert e).2) empty = ofEntries es ∧
    es.foldl withEntry empty = ofEntries es ∧
    (∀ name, (ofEntries es).get? name = lastNamed? es name) ∧
    (∀ e, ((ofEntries es).insert e).1 = lastNamed? es e.name ∧
      ((ofEntries es).insert e).2.get? e.name = some e ∧
      ∀ name, e.name ≠ name →
        ((ofEntries es).insert e).2.get? name = (ofEntries es).get? name) ∧
    (∀ e, e ∈ (ofEntries es).entries ↔ (ofEntries es).get? e.name = some e) ∧
    (∀ name e, (ofEntries es).get? name = some e → e.name = name) ∧
    (filed es = (ofEntries es).entries.map named ∧
      (∀ name, (filed es).lookup name = (ofEntries es).get? name) ∧
      ∀ fs, filed es = filed fs ↔ ofEntries es = ofEntries fs) ∧
    (ofEntries es).names.Pairwise (fun m n => Text.bytes m < Text.bytes n) ∧
    (∀ name, name ∈ (ofEntries es).names ↔ ((ofEntries es).get? name).isSome) ∧
    (ofEntries es).size = (ofEntries es).names.length ∧
    ((ofEntries es).isEmpty = true ↔ (ofEntries es).names = []) ∧
    ∀ fs, ofEntries es = ofEntries fs ↔ ∀ name, lastNamed? es name = lastNamed? fs name := by
  refine ⟨rfl, rfl, get?_ofEntries es, fun e => ⟨get?_ofEntries es e.name, ?_, ?_⟩, fun e => ?_,
    fun name e => name_of_get?, ⟨filed_eq es, lookup_filed es, fun fs => filed_eq_iff⟩,
    names_ascending _, fun name => mem_names_iff, ?_, ?_,
    fun fs => ⟨fun same name => ?_, fun same => ext_get? fun name => ?_⟩⟩
  · exact get?_withEntry_self _ e
  · exact fun name ne => get?_withEntry_of_ne _ ne
  · rw [get?_eq_some_iff, and_iff_left rfl]
  · exact (List.length_map _).symm
  · rw [isEmpty, List.isEmpty_iff, names, List.map_eq_nil_iff]
  · rw [← get?_ofEntries, ← get?_ofEntries, same]
  · rw [get?_ofEntries, get?_ofEntries, same]

/-- What `deploy` required before it was changed. -/
def outdated : Entry :=
  ⟨"deploy", .uniform ⟨"LOCAL"⟩, none⟩

def deploy : Entry :=
  ⟨"deploy", .uniform ⟨"TRUSTED"⟩, some "ship it"⟩

def audit : Entry :=
  ⟨"audit", .uniform ⟨"AUDIT"⟩, none⟩

/-- An entry that was replaced leaves no trace: the registry is the one that never had it,
whatever the order of the others. -/
theorem outdated_leaves_no_trace :
    (ofEntries [outdated, audit, deploy]).get? "deploy" = some deploy ∧
    ((ofEntries [outdated, audit]).insert deploy).1 = some outdated ∧
    ((ofEntries [outdated, audit]).insert deploy).2.get? "audit" = some audit ∧
    (ofEntries [outdated, audit, deploy]).names = ["audit", "deploy"] ∧
    ofEntries [outdated, audit, deploy] = ofEntries [deploy, audit] := by
  obtain ⟨-, -, found, -, -, -, -, -, -, -, -, alike⟩ :=
    ofEntries_is_last_named [outdated, audit, deploy]
  obtain ⟨-, -, before, replacing, -⟩ := ofEntries_is_last_named [outdated, audit]
  obtain ⟨replaced, -, elsewhere⟩ := replacing deploy
  refine ⟨found "deploy", replaced, ?_, rfl, (alike [deploy, audit]).2 fun name => ?_⟩
  · exact (elsewhere "audit" (by decide)).trans (before "audit")
  · by_cases isDeploy : name = "deploy"
    · subst isDeploy
      rfl
    · simp [lastNamed?, outdated, deploy, audit, Ne.symm isDeploy]

end Registry

end Clearance

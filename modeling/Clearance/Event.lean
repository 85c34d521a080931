/-
# Clearance.Event -- answers with the events recorded on the way

Operators follow a gate through its events.  An operation that records events
returns them beside its answer: `Logged α` is the answer and the events in
order.  Sequencing appends (`events_bind`), and nothing that is computed can
read an event back, so the plain form of an operation is the projection to its
answer (`answer_bind`).
-/
import Clearance.Label
import Clearance.Decision

namespace Clearance

set_option autoImplicit false

inductive Event where
  /-- A builder made a table with this bottom and number of rules. -/
  | tableBuilt (bottom : Label) (entries : Nat)
  /-- A table with this bottom breaks laws in this many places. -/
  | lawsBroken (bottom : Label) (count : Nat)
  /-- A list of labels was folded to `meet`. -/
  | labelsFolded (bottom meet : Label)
  /-- A context was decided against a request. -/
  | decided (bottom : Label) (mode : Mode) (denial : Option Denial)
  /-- A request names a command the registry does not have. -/
  | commandUnknown (command : String)
  /-- A document made a registry of this many commands. -/
  | registryBuilt (commands : Nat)
  /-- An admission ended in a denial. -/
  | admissionDenied (command : String) (reason : Denial)
deriving DecidableEq

inductive Level where
  | debug
  | trace
deriving DecidableEq

def Level.title : Level → String
  | debug => "DEBUG"
  | trace => "TRACE"

/-- What a field of an event holds. -/
inductive FieldValue where
  | text (s : String)
  | count (n : Nat)
deriving DecidableEq

namespace Event

/-- Steps inside a decision are traced; everything else is a debugging event. -/
def level : Event → Level
  | labelsFolded .. | decided .. => .trace
  | _ => .debug

def message : Event → String
  | tableBuilt .. => "built capability lattice"
  | lawsBroken .. => "lattice table breaks semilattice laws"
  | labelsFolded .. => "folded capabilities"
  | decided .. => "evaluated admission"
  | commandUnknown .. => "command not in registry"
  | registryBuilt .. => "built command registry from document"
  | admissionDenied .. => "admission denied"

/-- A denial or its absence, as an event shows it. -/
def denialTitle : Option Denial → String
  | none => "None"
  | some reason => "Some(" ++ reason.title ++ ")"

/-- The named fields of an event. -/
def fields : Event → List (String × FieldValue)
  | tableBuilt bottom entries => [("bottom", .text bottom.text), ("entries", .count entries)]
  | lawsBroken bottom count => [("bottom", .text bottom.text), ("count", .count count)]
  | labelsFolded bottom meet => [("bottom", .text bottom.text), ("meet", .text meet.text)]
  | decided bottom mode denial =>
      [("bottom", .text bottom.text), ("mode", .text mode.title),
        ("denial", .text (denialTitle denial))]
  | commandUnknown command => [("command", .text command)]
  | registryBuilt commands => [("commands", .count commands)]
  | admissionDenied command reason =>
      [("command", .text command), ("reason", .text reason.message)]

end Event

/-- An answer and the events recorded while it was found, in order. -/
structure Logged (α : Type) where
  answer : α
  events : List Event

namespace Logged

instance : Monad Logged where
  pure answer := ⟨answer, []⟩
  bind x f := ⟨(f x.answer).answer, x.events ++ (f x.answer).events⟩

/-- Record one event. -/
def emit (e : Event) : Logged Unit :=
  ⟨(), [e]⟩

variable {α β : Type}

@[simp] theorem answer_pure (a : α) : (pure a : Logged α).answer = a :=
  rfl

@[simp] theorem events_pure (a : α) : (pure a : Logged α).events = [] :=
  rfl

@[simp] theorem answer_bind (x : Logged α) (f : α → Logged β) :
    (x >>= f).answer = (f x.answer).answer :=
  rfl

@[simp] theorem events_bind (x : Logged α) (f : α → Logged β) :
    (x >>= f).events = x.events ++ (f x.answer).events :=
  rfl

@[simp] theorem answer_map (f : α → β) (x : Logged α) : (f <$> x).answer = f x.answer :=
  rfl

@[simp] theorem events_map (f : α → β) (x : Logged α) : (f <$> x).events = x.events :=
  List.append_nil _

@[simp] theorem answer_emit (e : Event) : (emit e).answer = () :=
  rfl

@[simp] theorem events_emit (e : Event) : (emit e).events = [e] :=
  rfl

/-- Logged operations are equal when answers and events are. -/
theorem ext_parts {x y : Logged α} (answer : x.answer = y.answer) (events : x.events = y.events) :
    x = y := by
  cases x; cases y
  cases answer; cases events
  rfl

instance : LawfulMonad Logged := LawfulMonad.mk' Logged
  (fun x => by cases x; exact ext_parts rfl (List.append_nil _))
  (fun _ _ => rfl)
  (fun x f g => ext_parts rfl (List.append_assoc ..))

end Logged

end Clearance

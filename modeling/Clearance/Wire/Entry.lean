/-
# Clearance.Wire.Entry -- command entries as JSON

An entry is an object with a profile under `required_capabilities`, and where
they are given a string under `name` and a string or null under `description`;
other keys are passed over.  Or it is an array of name, profile and description,
from whose end what need not be given may be missing.  A name that is not given
is empty.
-/
import Clearance.Registry.Entry
import Clearance.Wire.Profile

namespace Clearance.Wire

open Clearance.Json

set_option autoImplicit false

def entryShape : Shape :=
  ⟨"CommandEntry", ["name", "required_capabilities", "description"]⟩

/-- The member of a description, if there is one. -/
def descriptionMember : Option String → List (String × Value)
  | none => []
  | some d => [("description", .string d)]

instance : Encode Entry where
  encode e :=
    .object (("name", .string e.name) :: ("required_capabilities", encode e.required) ::
      descriptionMember e.description)

/-- The fields of an entry read so far. -/
structure EntryFields where
  name : Option String := none
  required : Option Profile := none
  description : Option (Option String) := none

/-- Read a member of an entry's object. -/
def readEntryMember (source : Source) (s : EntryFields) (key : String) (o : Outline) :
    Except Fault EntryFields :=
  if key = "name" then
    (readOnce s.name key (readString o)).map fun name => { s with name := some name }
  else if key = "required_capabilities" then
    (readOnce s.required key (decode source o)).map fun p => { s with required := some p }
  else if key = "description" then
    (readOnce s.description key (readOptionalString o)).map fun d =>
      { s with description := some d }
  else if o.isSound then .ok s
  else .error .malformed

/-- The entry of the fields that were given. -/
def EntryFields.entry (s : EntryFields) : Except Fault Entry :=
  (Wire.required "required_capabilities" s.required).map fun p =>
    { name := s.name.getD "", required := p, description := s.description.getD none }

/-- Read an entry's array. -/
def readEntryItems (source : Source) (items : List Outline) (closed : Bool) :
    Except Fault Entry := do
  let (name, rest) ← readItemOr "" closed readString items
  let (required, rest) ← readItem entryShape closed 1 (decode source) rest
  let (description, rest) ← readItemOr none closed readOptionalString rest
  endItems source closed items.length rest
  return { name, required, description }

def decodeEntry (source : Source) : Outline → Except Fault Entry
  | .object members closed =>
      (readMembers (readEntryMember source) closed {} members).bind EntryFields.entry
  | .array items closed => readEntryItems source items closed
  | o => .error (.unexpected o (.record entryShape))

instance : Decode Entry where
  decode := decodeEntry

end Clearance.Wire

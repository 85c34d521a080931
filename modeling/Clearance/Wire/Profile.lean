/-
# Clearance.Wire.Profile -- labels, dimensions, profiles and contexts as JSON

A label is a string, a dimension its name, and a profile an object with the five
dimensions as keys and no other, or an array of the five labels in canonical
order.  Of an object the first member with an unknown key, a repeated key or a
wrong value is the fault; a missing dimension is reported after them.  A context
is written and read as its profile.
-/
import Clearance.Profile
import Clearance.Wire.Codec

namespace Clearance.Wire

open Clearance.Json

set_option autoImplicit false

instance : Encode Label where
  encode l := .string l.text

instance : Decode Label where
  decode _ o := (readString o).map Label.mk

/-- The names of all dimensions in canonical order. -/
def dimensionNames : List String :=
  Dimension.all.map Dimension.name

theorem nodup_dimensionNames : dimensionNames.Nodup := by
  decide

instance : Encode Dimension where
  encode d := .string d.name

instance : Decode Dimension where
  decode := readVariant dimensionNames Dimension.ofName?

def profileShape : Shape :=
  ⟨"CapabilityProfile", dimensionNames⟩

instance : Encode Profile where
  encode p := .object (Dimension.all.map fun d => (d.name, encode (p.get d)))

/-- Read a member of a profile's object. -/
def readDimension (source : Source) (slots : Slots) (key : String) (o : Outline) :
    Except Fault Slots :=
  match Dimension.ofName? key with
  | none => .error (.mismatch (.unknownField key dimensionNames))
  | some d => (readOnce (slots d) key (decode source o)).map (slots.set d)

/-- The profile of slots that all have to be filled. -/
def requireAll (slots : Slots) : Except Fault Profile := do
  let host ← required "host" (slots .host)
  let context ← required "context" (slots .context)
  let runtime ← required "runtime" (slots .runtime)
  let command ← required "command" (slots .command)
  let financial ← required "financial" (slots .financial)
  return { host, context, runtime, command, financial }

/-- Read a profile's array. -/
def readLabels (source : Source) (items : List Outline) (closed : Bool) :
    Except Fault Profile := do
  let (host, rest) ← readItem profileShape closed 0 (decode source) items
  let (context, rest) ← readItem profileShape closed 1 (decode source) rest
  let (runtime, rest) ← readItem profileShape closed 2 (decode source) rest
  let (command, rest) ← readItem profileShape closed 3 (decode source) rest
  let (financial, rest) ← readItem profileShape closed 4 (decode source) rest
  endItems source closed items.length rest
  return { host, context, runtime, command, financial }

def decodeProfile (source : Source) : Outline → Except Fault Profile
  | .object members closed =>
      (readMembers (readDimension source) closed Slots.empty members).bind requireAll
  | .array items closed => readLabels source items closed
  | o => .error (.unexpected o (.record profileShape))

instance : Decode Profile where
  decode := decodeProfile

instance : Encode Context where
  encode c := encode c.profile

instance : Decode Context where
  decode source o := (decode source o).map Context.mk

end Clearance.Wire

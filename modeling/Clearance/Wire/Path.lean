/-
# Clearance.Wire.Path -- stages, edges and paths as JSON

Stages and edges are their names.  A host path is its raw text; a logical path an
object or an array of namespace and key, other keys of the object being passed
over.  A memory path is only written: an artifact is resolved, never read in.
-/
import Clearance.Path.Basic
import Clearance.Wire.Codec

namespace Clearance.Wire

open Clearance.Json

set_option autoImplicit false

instance : Encode Stage where
  encode s := .string s.name

instance : Decode Stage where
  decode := readVariant (Stage.all.map Stage.name) Stage.ofName?

instance : Encode Transition where
  encode t := .string t.name

instance : Decode Transition where
  decode := readVariant (Transition.all.map Transition.name) Transition.ofName?

instance : Encode HostPath where
  encode p := .string p.raw

instance : Decode HostPath where
  decode _ o := (readString o).map HostPath.mk

def logicalShape : Shape :=
  ⟨"LogicalPath", ["namespace", "key"]⟩

instance : Encode LogicalPath where
  encode p := .object [("namespace", .string p.space), ("key", .string p.key)]

/-- The fields of a logical path read so far. -/
structure LogicalFields where
  space : Option String := none
  key : Option String := none

/-- Read a member of a logical path's object. -/
def readLogicalMember (s : LogicalFields) (key : String) (o : Outline) :
    Except Fault LogicalFields :=
  if key = "namespace" then
    (readOnce s.space key (readString o)).map fun space => { s with space := some space }
  else if key = "key" then
    (readOnce s.key key (readString o)).map fun k => { s with key := some k }
  else if o.isSound then .ok s
  else .error .malformed

/-- The logical path of fields that both have to be given. -/
def LogicalFields.path (s : LogicalFields) : Except Fault LogicalPath := do
  let space ← required "namespace" s.space
  let key ← required "key" s.key
  return { space, key }

/-- Read a logical path's array. -/
def readLogicalItems (source : Source) (items : List Outline) (closed : Bool) :
    Except Fault LogicalPath := do
  let (space, rest) ← readItem logicalShape closed 0 readString items
  let (key, rest) ← readItem logicalShape closed 1 readString rest
  endItems source closed items.length rest
  return { space, key }

def decodeLogical (source : Source) : Outline → Except Fault LogicalPath
  | .object members closed =>
      (readMembers readLogicalMember closed {} members).bind LogicalFields.path
  | .array items closed => readLogicalItems source items closed
  | o => .error (.unexpected o (.record logicalShape))

instance : Decode LogicalPath where
  decode := decodeLogical

instance : Encode MemoryPath where
  encode p :=
    .object [("logical", encode p.logical), ("sha256", .string p.sha256),
      ("loaded_at_utc", .string p.loadedAt)]

/-- A path of any stage is written as what it is. -/
instance : Encode Path where
  encode
    | .host p => encode p
    | .logical p => encode p
    | .memory p => encode p

end Clearance.Wire

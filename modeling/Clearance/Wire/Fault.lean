/-
# Clearance.Wire.Fault -- why JSON does not decode

A decoder fails for one of two causes.  The JSON is sound so far and does not fit
the type: a `Mismatch`, which says what was found and what was expected.  Or, in
a text, there is no sound JSON to go on with: `malformed`, which says no more.

The messages are those a serialization library documents for the records it decodes.
They are assumed of it, as the decoders of `Wire.Codec` are.
-/
import Clearance.Json.Outline
import Clearance.Text.Quoted

namespace Clearance.Wire

open Clearance.Json

set_option autoImplicit false

/-- What stands in a document. -/
inductive Found where
  | null
  | bool (b : Bool)
  | number (n : Number)
  | string (s : String)
  | sequence
  | map
deriving DecidableEq

namespace Found

def text : Found → String
  | null => "null"
  | bool true => "boolean `true`"
  | bool false => "boolean `false`"
  | number (.integer n) => "integer `" ++ (Number.integer n).text ++ "`"
  | number n => "floating point `" ++ n.text ++ "`"
  | string s => "string " ++ Text.quoted s
  | sequence => "sequence"
  | map => "map"

/-- What an outline starts with, if that is readable. -/
def ofOutline? : Outline → Option Found
  | .null => some null
  | .bool b => some (bool b)
  | .number n => some (number n)
  | .string s => some (string s)
  | .array .. => some sequence
  | .object .. => some map
  | .unreadable | .broken => none

end Found

/-- A record of named fields: its title and its fields in order. -/
structure Shape where
  title : String
  fields : List String
deriving DecidableEq

/-- What a type asks for. -/
inductive Expectation where
  | string
  | record (shape : Shape)
  | variant
  | unit
deriving DecidableEq

def Expectation.text : Expectation → String
  | string => "a string"
  | record shape => "struct " ++ shape.title
  | variant => "string or map"
  | unit => "unit"

/-- How sound JSON fails to fit a type. -/
inductive Mismatch where
  | wrongType (found : Found) (expected : Expectation)
  | notSingleKey
  | tooShort (length : Nat) (shape : Shape)
  | tooLong (length : Nat)
  | unknownField (name : String) (known : List String)
  | unknownVariant (name : String) (known : List String)
  | missingField (name : String)
  | duplicateField (name : String)
deriving DecidableEq

/-- A name between backticks. -/
def ticked (name : String) : String :=
  "`" ++ name ++ "`"

/-- The names one may choose from. -/
def choices : List String → String
  | [] => "nothing"
  | [a] => ticked a
  | [a, b] => ticked a ++ " or " ++ ticked b
  | names => "one of " ++ ", ".intercalate (names.map ticked)

namespace Mismatch

def message : Mismatch → String
  | wrongType found expected =>
      "invalid type: " ++ found.text ++ ", expected " ++ expected.text
  | notSingleKey => "invalid value: map, expected map with a single key"
  | tooShort length shape =>
      "invalid length " ++ length.repr ++ ", expected struct " ++ shape.title ++ " with " ++
        shape.fields.length.repr ++ " elements"
  | tooLong length => "invalid length " ++ length.repr ++ ", expected fewer elements in array"
  | unknownField name known => "unknown field " ++ ticked name ++ ", expected " ++ choices known
  | unknownVariant name known =>
      "unknown variant " ++ ticked name ++ ", expected " ++ choices known
  | missingField name => "missing field " ++ ticked name
  | duplicateField name => "duplicate field " ++ ticked name

end Mismatch

/-- Why a decoder fails. -/
inductive Fault where
  | malformed
  | mismatch (m : Mismatch)
deriving DecidableEq

namespace Fault

def message : Fault → String
  | malformed => "malformed text"
  | mismatch m => m.message

/-- The outline is not what was expected, or not sound. -/
def unexpected (o : Outline) (expected : Expectation) : Fault :=
  match Found.ofOutline? o with
  | some found => .mismatch (.wrongType found expected)
  | none => .malformed

end Fault

end Clearance.Wire

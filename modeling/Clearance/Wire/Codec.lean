/-
# Clearance.Wire.Codec -- reading and writing types as JSON

`Encode` writes a value of a type as JSON with its fields in declaration order.
`Decode` reads one from an outline, so that one decoder serves JSON values and
JSON texts.  The two sources differ in little, and `Source` tells a decoder
which it is: an array with items left over, and a variant that is not a single
key, are mismatches of a value but leave a text malformed.

A record is an object or an array of its fields in order.  `readMembers` takes
the members of an object one by one, in the order of the document, and
`readItem` the items of an array; both stop at the first fault.

How records and variants are written, what is accepted as one and which fault is told
follows the documented behaviour of a serialization library.  The library itself is not
part of this development: the definitions of this module, and the messages of
`Wire.Fault`, are what is assumed of it.
-/
import Clearance.Wire.Fault

namespace Clearance.Wire

open Clearance.Json

set_option autoImplicit false

inductive Source where
  | value
  | text
deriving DecidableEq

class Encode (α : Type) where
  encode : α → Value

class Decode (α : Type) where
  decode : Source → Outline → Except Fault α

export Encode (encode)
export Decode (decode)

section

variable {α : Type}

/-- Decode a JSON value. -/
def ofValue (α : Type) [Decode α] (v : Value) : Except Fault α :=
  decode .value (Outline.ofValue v)

/-- Decode a JSON text with nothing but blanks after it. -/
def ofText (α : Type) [Decode α] (text : String) : Except Fault α :=
  let (outline, trailing) := Outline.ofText text
  (decode .text outline).bind fun a => if trailing then .error .malformed else .ok a

/-- A text that nothing follows is read from its outline. -/
theorem ofText_of_outline [Decode α] {text : String} {outline : Outline}
    (sound : Outline.ofText text = (outline, false)) : ofText α text = decode .text outline := by
  simp only [ofText, sound, Bool.false_eq_true, if_false]
  cases decode (α := α) .text outline <;> rfl

/-- The JSON value of `a`: objects have no order. -/
def toValue [Encode α] (a : α) : Value :=
  (encode a).canonical

/-- The compact JSON text of `a`, with fields in declaration order. -/
def toText [Encode α] (a : α) : String :=
  (encode a).render

/-! ## Strings and null -/

def readString : Outline → Except Fault String
  | .string s => .ok s
  | o => .error (.unexpected o .string)

/-- A string, or null for none. -/
def readOptionalString : Outline → Except Fault (Option String)
  | .null => .ok none
  | o => (readString o).map some

def readUnit : Outline → Except Fault Unit
  | .null => .ok ()
  | o => .error (.unexpected o .unit)

/-! ## Records -/

/-- Read the members of an object into a state.  An object that is cut short is
malformed, and so is a key that cannot be read, but not before the members in
front of them were read. -/
def readMembers {σ : Type} (readMember : σ → String → Outline → Except Fault σ) (closed : Bool) :
    σ → List (Option String × Outline) → Except Fault σ
  | s, [] => if closed then .ok s else .error .malformed
  | _, (none, _) :: _ => .error .malformed
  | s, (some key, o) :: rest =>
      (readMember s key o).bind fun s => readMembers readMember closed s rest

/-- Read into a field that nothing was read into before. -/
def readOnce (field : Option α) (name : String) (value : Except Fault α) : Except Fault α :=
  match field with
  | some _ => .error (.mismatch (.duplicateField name))
  | none => value

/-- A field that has to be there. -/
def required (name : String) : Option α → Except Fault α
  | some a => .ok a
  | none => .error (.mismatch (.missingField name))

/-- Read the next item of an array, and what is left; an array that ends here has
`place` items. -/
def readItem (shape : Shape) (closed : Bool) (place : Nat) (read : Outline → Except Fault α) :
    List Outline → Except Fault (α × List Outline)
  | o :: rest => (read o).map fun a => (a, rest)
  | [] => .error (if closed then .mismatch (.tooShort place shape) else .malformed)

/-- Read the next item of an array, or take `absent` where the array ends. -/
def readItemOr (absent : α) (closed : Bool) (read : Outline → Except Fault α) :
    List Outline → Except Fault (α × List Outline)
  | o :: rest => (read o).map fun a => (a, rest)
  | [] => if closed then .ok (absent, []) else .error .malformed

/-- An array of `length` items has nothing left. -/
def endItems (source : Source) (closed : Bool) (length : Nat) : List Outline → Except Fault Unit
  | [] => if closed then .ok () else .error .malformed
  | _ :: _ =>
      match source with
      | .value => .error (.mismatch (.tooLong length))
      | .text => .error .malformed

/-! ## Variants without a payload -/

/-- The variant of a name. -/
def variantNamed (names : List String) (named? : String → Option α) (name : String) :
    Except Fault α :=
  match named? name with
  | some a => .ok a
  | none => .error (.mismatch (.unknownVariant name names))

/-- A variant is its name, or an object with that one key and null.  A text that has no
string where the key should be is no JSON from there on, so it is malformed and not a
mismatch. -/
def readVariant (names : List String) (named? : String → Option α) (source : Source) :
    Outline → Except Fault α
  | .string name => variantNamed names named? name
  | .object members closed =>
      match source, members with
      | .value, [(some key, o)] => do
          let a ← variantNamed names named? key
          readUnit o
          return a
      | .value, _ => .error (.mismatch .notSingleKey)
      | .text, (some key, o) :: rest => do
          let a ← variantNamed names named? key
          readUnit o
          if rest.isEmpty && closed then return a else .error .malformed
      | .text, _ => .error .malformed
  | o =>
      match source with
      | .value => .error (.unexpected o .variant)
      | .text => .error .malformed

end

end Clearance.Wire

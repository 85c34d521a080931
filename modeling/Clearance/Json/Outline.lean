/-
# Clearance.Json.Outline -- what can be made out of JSON text

Text is decoded from left to right, and what is wrong first is what counts: a
field of the wrong type before a missing bracket, or the bracket before the
field.  An `Outline` keeps that order.  It is the tree of a text up to the place
where the text stops being JSON: an array or object that is cut short says so,
and `broken` stands where no value starts.  A decoder walks the outline in the
order of the text and meets either kind of trouble where it is.

An outline of sound text has a value (`value?`), and every value has an outline
(`ofValue`), so values and texts are decoded alike.

A text read as a value (`Value.parse?`) may not be nested too deeply.  A decoder sets no
such limit: the records it reads are shallow, and what it passes over may be of any
depth.  Where a text stops being JSON, what can be passed over and the limit follow the
documented behaviour of the library that reads it, which is not part of this development.
-/
import Clearance.Json.Value

namespace Clearance.Json

set_option autoImplicit false

inductive Outline where
  | null
  | bool (b : Bool)
  | number (n : Number)
  | string (s : String)
  /-- A literal without a value, which can only be passed over. -/
  | unreadable
  | array (items : List Outline) (closed : Bool)
  /-- Keys are absent where the key's literal is unreadable. -/
  | object (members : List (Option String × Outline)) (closed : Bool)
  | broken

namespace Outline

/-- A literal's outline. -/
def ofLiteral {α : Type} (readable : α → Outline) : Option α → Outline
  | some a => readable a
  | none => unreadable

mutual

/-- The outline at the front of some tokens, and the tokens after it if it is
complete. -/
def readValue : Nat → List Token → Outline × Option (List Token)
  | 0, _ => (broken, none)
  | _ + 1, .null :: rest => (null, some rest)
  | _ + 1, .bool b :: rest => (bool b, some rest)
  | _ + 1, .number n :: rest => (ofLiteral number n, some rest)
  | _ + 1, .string s :: rest => (ofLiteral string s, some rest)
  | _ + 1, .openBracket :: .closeBracket :: rest => (array [] true, some rest)
  | n + 1, .openBracket :: rest =>
      let (items, rest) := readItems n rest
      (array items rest.isSome, rest)
  | _ + 1, .openBrace :: .closeBrace :: rest => (object [] true, some rest)
  | n + 1, .openBrace :: .string key :: rest =>
      let (members, rest) := readMembers n key rest
      (object members rest.isSome, rest)
  | _ + 1, .openBrace :: _ => (object [] false, none)
  | _ + 1, _ => (broken, none)

/-- The items of an array from an item on. -/
def readItems : Nat → List Token → List Outline × Option (List Token)
  | 0, _ => ([broken], none)
  | n + 1, tokens =>
      match readValue n tokens with
      | (item, some (.comma :: rest)) =>
          let (items, rest) := readItems n rest
          (item :: items, rest)
      | (item, some (.closeBracket :: rest)) => ([item], some rest)
      | (item, _) => ([item], none)

/-- The members of an object from a key on, the key already taken. -/
def readMembers : Nat → Option String → List Token →
    List (Option String × Outline) × Option (List Token)
  | 0, key, _ => ([(key, broken)], none)
  | n + 1, key, .colon :: tokens =>
      match readValue n tokens with
      | (value, some (.comma :: .string next :: rest)) =>
          let (members, rest) := readMembers n next rest
          ((key, value) :: members, rest)
      | (value, some (.closeBrace :: rest)) => ([(key, value)], some rest)
      | (value, _) => ([(key, value)], none)
  | _ + 1, key, _ => ([(key, broken)], none)

end

/-- The outline of a text, and whether anything but blanks follows it.  Two steps
down take a token at least, so twice their number bounds the steps. -/
def ofText (text : String) : Outline × Bool :=
  let tokens := scan text.toList
  match readValue (2 * tokens.length) tokens with
  | (outline, some (_ :: _)) => (outline, true)
  | (outline, _) => (outline, false)

mutual

/-- The outline of a value. -/
def ofValue : Value → Outline
  | .null => null
  | .bool b => bool b
  | .number n => number n
  | .string s => string s
  | .array items => array (ofItems items) true
  | .object members => object (ofMembers members) true

def ofItems : List Value → List Outline
  | [] => []
  | v :: vs => ofValue v :: ofItems vs

def ofMembers : List (String × Value) → List (Option String × Outline)
  | [] => []
  | (k, v) :: ms => (some k, ofValue v) :: ofMembers ms

end

mutual

/-- The text is sound throughout, literals without a value included. -/
def isSound : Outline → Bool
  | null | bool _ | number _ | string _ | unreadable => true
  | array items closed => areSound items && closed
  | object members closed => membersAreSound members && closed
  | broken => false

def areSound : List Outline → Bool
  | [] => true
  | o :: os => o.isSound && areSound os

def membersAreSound : List (Option String × Outline) → Bool
  | [] => true
  | (_, o) :: ms => o.isSound && membersAreSound ms

end

mutual

/-- The value of an outline that is sound and readable. -/
def value? : Outline → Option Value
  | null => some .null
  | bool b => some (.bool b)
  | number n => some (.number n)
  | string s => some (.string s)
  | array items true => (values? items).map .array
  | object members true => (members? members).map .object
  | _ => none

def values? : List Outline → Option (List Value)
  | [] => some []
  | o :: os =>
      match o.value?, values? os with
      | some v, some vs => some (v :: vs)
      | _, _ => none

def members? : List (Option String × Outline) → Option (List (String × Value))
  | [] => some []
  | (some k, o) :: ms =>
      match o.value?, members? ms with
      | some v, some vs => some ((k, v) :: vs)
      | _, _ => none
  | (none, _) :: _ => none

end

end Outline

/-- From this depth on a value is not read from text. -/
def nestingLimit : Nat :=
  128

/-- The value a text is, with its members in the order of the text. -/
def Value.parse? (text : String) : Option Value :=
  match Outline.ofText text with
  | (outline, false) => outline.value?.filter fun v => v.depth < nestingLimit
  | (_, true) => none

end Clearance.Json

/-
# Clearance.Json.Value -- JSON values and their compact text

Members of an object keep the order they are given in, which is the order of
their text.  As a value an object has no order: `canonical` lists its members by
ascending key, the last one under each key, and so do all objects inside it.

The compact text of a value is the text of its tokens with nothing between.

Values in this form, the order of their keys and their compact text follow the documented
behaviour of a JSON library that is not part of this development.
-/
import Clearance.Ordered
import Clearance.Json.Token

namespace Clearance.Json

set_option autoImplicit false

inductive Value where
  | null
  | bool (b : Bool)
  | number (n : Number)
  | string (s : String)
  | array (items : List Value)
  | object (members : List (String × Value))

/-- What sort of value a value is. -/
inductive Kind where
  | null
  | boolean
  | number
  | string
  | array
  | object
deriving DecidableEq

def Kind.name : Kind → String
  | null => "null"
  | boolean => "boolean"
  | number => "number"
  | string => "string"
  | array => "array"
  | object => "object"

/-- Members are compared by their keys. -/
def compareKeys : String × Value → String × Value → Ordering :=
  compareOn Prod.fst

instance : Std.TransCmp compareKeys :=
  inferInstanceAs (Std.TransCmp (compareOn Prod.fst))

namespace Value

def kind : Value → Kind
  | null => .null
  | bool _ => .boolean
  | number _ => .number
  | string _ => .string
  | array _ => .array
  | object _ => .object

mutual

/-- The same value with the members of every object by ascending key. -/
def canonical : Value → Value
  | null => null
  | bool b => bool b
  | number n => number n
  | string s => string s
  | array items => array (canonicalItems items)
  | object members => object (Ordered.ofList compareKeys (canonicalMembers members))

def canonicalItems : List Value → List Value
  | [] => []
  | v :: vs => v.canonical :: canonicalItems vs

def canonicalMembers : List (String × Value) → List (String × Value)
  | [] => []
  | (k, v) :: ms => (k, v.canonical) :: canonicalMembers ms

end

mutual

/-- How many arrays and objects stand one in another. -/
def depth : Value → Nat
  | array items => itemsDepth items + 1
  | object members => membersDepth members + 1
  | _ => 0

def itemsDepth : List Value → Nat
  | [] => 0
  | v :: vs => max v.depth (itemsDepth vs)

def membersDepth : List (String × Value) → Nat
  | [] => 0
  | (_, v) :: ms => max v.depth (membersDepth ms)

end

theorem canonicalMembers_eq_map (members : List (String × Value)) :
    canonicalMembers members = members.map fun m => (m.1, m.2.canonical) := by
  induction members with
  | nil => rfl
  | cons m ms ih => rw [canonicalMembers, ih, List.map_cons]

/-- The members of a canonical object ascend by their keys. -/
theorem ascending_of_canonical_eq {v : Value} {members : List (String × Value)}
    (same : v.canonical = object members) : Ordered.Ascending compareKeys members := by
  cases v with
  | object given =>
      simp only [canonical, object.injEq] at same
      exact same ▸ Ordered.ascending_ofList _
  | _ => simp [canonical] at same

/-- A canonical object has each key once. -/
theorem nodup_keys_of_canonical_eq {v : Value} {members : List (String × Value)}
    (same : v.canonical = object members) : (members.map Prod.fst).Nodup :=
  Ordered.nodup_map_of_ascending (ascending_of_canonical_eq same)

mutual

/-- The tokens of a value. -/
def tokens : Value → List Token
  | null => [.null]
  | bool b => [.bool b]
  | number n => [.number (some n)]
  | string s => [.string (some s)]
  | array [] => [.openBracket, .closeBracket]
  | array (v :: vs) => .openBracket :: v.tokens ++ itemTokens vs
  | object [] => [.openBrace, .closeBrace]
  | object ((k, v) :: ms) =>
      .openBrace :: .string (some k) :: .colon :: v.tokens ++ memberTokens ms

/-- The tokens of an array after an item. -/
def itemTokens : List Value → List Token
  | [] => [.closeBracket]
  | v :: vs => .comma :: v.tokens ++ itemTokens vs

/-- The tokens of an object after a member. -/
def memberTokens : List (String × Value) → List Token
  | [] => [.closeBrace]
  | (k, v) :: ms => .comma :: .string (some k) :: .colon :: v.tokens ++ memberTokens ms

end

/-- The compact text. -/
def render (v : Value) : String :=
  String.ofList (v.tokens.flatMap Token.text)

/-- The member under a key. -/
def member? (key : String) : Value → Option Value
  | object members => members.lookup key
  | _ => none

/-- What a canonical value holds is canonical. -/
theorem exists_canonical_of_member? {v w : Value} {key : String}
    (found : v.canonical.member? key = some w) : ∃ given : Value, w = given.canonical := by
  cases v with
  | object members =>
      obtain ⟨before, after, split, -⟩ := List.lookup_eq_some_iff.1 found
      have listed : (key, w) ∈ Ordered.ofList compareKeys (canonicalMembers members) := by
        simp [split]
      have source := Ordered.mem_of_mem_ofList listed
      rw [canonicalMembers_eq_map, List.mem_map] at source
      obtain ⟨m, -, same⟩ := source
      exact ⟨m.2, (congrArg Prod.snd same).symm⟩
  | _ => simp [canonical, member?] at found

/-- A natural number. -/
def ofNat (n : Nat) : Value :=
  number (.integer n)

end Value

end Clearance.Json

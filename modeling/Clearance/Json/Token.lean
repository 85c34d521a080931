/-
# Clearance.Json.Token -- the words of JSON text

`scan` cuts text into tokens.  Blanks separate; at the first place where
no token starts there is one `invalid` token and the scan stops, so whatever is
read from the tokens up to there was read from sound text.

A string literal with a lone surrogate and a number literal out of range are
tokens without a value: text that only passes over them is still sound.

JSON text is read and written by a library that is not part of this development.  The
tokens here follow its documented behaviour, which is the grammar of JSON: no leading
zeros, no bare control characters, four blanks and no others.
-/
import Clearance.Json.Number
import Clearance.Json.Quote

namespace Clearance.Json

set_option autoImplicit false

inductive Token where
  | openBrace
  | closeBrace
  | openBracket
  | closeBracket
  | comma
  | colon
  | null
  | bool (b : Bool)
  | number (n : Option Number)
  | string (s : Option String)
  | invalid
deriving DecidableEq

namespace Token

/-- The text of a token.  Tokens without a value have none. -/
def text : Token → List Char
  | openBrace => ['\x7b']
  | closeBrace => ['\x7d']
  | openBracket => ['[']
  | closeBracket => [']']
  | comma => [',']
  | colon => [':']
  | null => ['n', 'u', 'l', 'l']
  | bool true => ['t', 'r', 'u', 'e']
  | bool false => ['f', 'a', 'l', 's', 'e']
  | number (some n) => n.text.toList
  | string (some s) => quote s
  | number none | string none | invalid => []

end Token

/-- Space, tab, line feed and carriage return. -/
def isBlank (c : Char) : Bool :=
  c = ' ' ∨ c = '\t' ∨ c = '\n' ∨ c = '\r'

/-- The decimal digits in front, and what follows them. -/
def readDigits : List Char → List Nat × List Char
  | [] => ([], [])
  | c :: cs =>
      if '0' ≤ c ∧ c ≤ '9' then
        let (ds, rest) := readDigits cs
        ((c.toNat - '0'.toNat) :: ds, rest)
      else ([], c :: cs)

/-- A fraction of at least one digit, if there is a point. -/
def readFraction : List Char → Option (Option (List Nat) × List Char)
  | '.' :: cs =>
      match readDigits cs with
      | ([], _) => none
      | (ds, rest) => some (some ds, rest)
  | cs => some (none, cs)

/-- At least one digit of an exponent with the given sign. -/
def readExponentDigits (negative : Bool) (cs : List Char) :
    Option (Option (Bool × List Nat) × List Char) :=
  match readDigits cs with
  | ([], _) => none
  | (ds, rest) => some (some (negative, ds), rest)

/-- An exponent, if there is a mark. -/
def readExponent : List Char → Option (Option (Bool × List Nat) × List Char)
  | c :: cs =>
      if c = 'e' ∨ c = 'E' then
        match cs with
        | '-' :: cs => readExponentDigits true cs
        | '+' :: cs => readExponentDigits false cs
        | cs => readExponentDigits false cs
      else some (none, c :: cs)
  | [] => some (none, [])

/-- A number literal after its sign.  A leading zero stands alone. -/
def readNumber (negative : Bool) (cs : List Char) : Option (NumberLiteral × List Char) :=
  match readDigits cs with
  | ([], _) | (0 :: _ :: _, _) => none
  | (whole, rest) => do
      let (fraction, rest) ← readFraction rest
      let (exponent, rest) ← readExponent rest
      return (⟨negative, whole, fraction, exponent⟩, rest)

/-- The token that starts with `c`, and what follows it. -/
def readToken (c : Char) (cs : List Char) : Option (Token × List Char) :=
  match c, cs with
  | '\x7b', cs => some (.openBrace, cs)
  | '\x7d', cs => some (.closeBrace, cs)
  | '[', cs => some (.openBracket, cs)
  | ']', cs => some (.closeBracket, cs)
  | ',', cs => some (.comma, cs)
  | ':', cs => some (.colon, cs)
  | 'n', 'u' :: 'l' :: 'l' :: cs => some (.null, cs)
  | 't', 'r' :: 'u' :: 'e' :: cs => some (.bool true, cs)
  | 'f', 'a' :: 'l' :: 's' :: 'e' :: cs => some (.bool false, cs)
  | '"', cs => (readLiteral cs).map fun (s, rest) => (.string s, rest)
  | '-', cs => (readNumber true cs).map fun (l, rest) => (.number l.number?, rest)
  | c, cs => (readNumber false (c :: cs)).map fun (l, rest) => (.number l.number?, rest)

/-- Scan with a bound on the number of steps. -/
def scanSteps : Nat → List Char → List Token
  | _, [] => []
  | 0, _ => []
  | n + 1, c :: cs =>
      if isBlank c then scanSteps n cs
      else
        match readToken c cs with
        | some (t, rest) => t :: scanSteps n rest
        | none => [.invalid]

/-- The tokens of a text.  A step takes at least one character, so its length
bounds the steps. -/
def scan (cs : List Char) : List Token :=
  scanSteps cs.length cs

end Clearance.Json

/-
# Clearance.Json.Number -- JSON numbers

A number literal without fraction and exponent is an integer when it fits 64
bits, unsigned or, below zero, signed.  Everything else is a binary64 value: a
fraction, an exponent, a larger integer and `-0`.

Of the digits of a long literal, those that still fit 64 bits without sign make
the significand; the integer digits after them only scale it, and the fraction
digits after them are dropped.  A literal too large for a binary64 value has no
number.

Which literals are integers, and what becomes of long ones, is up to the library that
reads JSON text; it is not part of this development, and these rules are assumed of it.
-/
import Clearance.Number.Shortest

namespace Clearance.Json

set_option autoImplicit false

inductive Number where
  | integer (value : Int)
  | floating (negative : Bool) (magnitude : Magnitude)
deriving DecidableEq

namespace Number

def text : Number → String
  | integer value => value.repr
  | floating negative magnitude => (if negative then "-" else "") ++ magnitude.text

end Number

/-- The parts of a number literal: its digits, and the exponent with its sign. -/
structure NumberLiteral where
  negative : Bool
  integer : List Nat
  fraction : Option (List Nat)
  exponent : Option (Bool × List Nat)
deriving DecidableEq

namespace NumberLiteral

/-- Read digits onto a significand while it fits 64 bits; what is left is from
the first digit that does not fit. -/
def accumulate : Nat → List Nat → Nat × List Nat
  | significand, [] => (significand, [])
  | significand, d :: ds =>
      if significand * 10 + d < Nat.pow 2 64 then accumulate (significand * 10 + d) ds
      else (significand, d :: ds)

/-- The natural number of decimal digits. -/
def ofDigits (ds : List Nat) : Nat :=
  ds.foldl (fun n d => n * 10 + d) 0

/-- The literal's number, unless it is out of range. -/
def number? (l : NumberLiteral) : Option Number :=
  let (whole, skipped) := accumulate 0 l.integer
  match l.fraction, l.exponent, skipped with
  | none, none, [] =>
      if !l.negative then some (.integer whole)
      else if whole = 0 ∨ Nat.pow 2 63 < whole then some (.floating true (.ofNat whole))
      else some (.integer (-whole))
  | fraction, exponent, skipped =>
      let digits := fraction.getD []
      let (significand, dropped) := accumulate whole digits
      let scale : Int := (skipped.length : Int) - (digits.length - dropped.length)
      let shift : Int := match exponent with
        | none => 0
        | some (negative, ds) => if negative then -(ofDigits ds : Int) else ofDigits ds
      (Magnitude.scaled? significand (scale + shift)).map (.floating l.negative)

end NumberLiteral

end Clearance.Json

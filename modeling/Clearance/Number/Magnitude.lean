/-
# Clearance.Number.Magnitude -- non-negative binary64 values, exactly

A magnitude is `mantissa * 2 ^ exponent` with at most 53 bits of mantissa and
an exponent from -1074 up: the non-negative binary64 values, and above the
largest of them the values a wider exponent would allow, which `isFinite` tells
apart.  Products and quotients are exact ratios of naturals rounded once, to
nearest with ties to even.

Powers are written `Nat.pow`, which means the same whatever is in scope.
-/

namespace Clearance

set_option autoImplicit false

/-- The nearest natural to `num / den`; a half goes to the even neighbour. -/
def roundDiv (num den : Nat) : Nat :=
  let quotient := num / den
  let twice := 2 * (num % den)
  if twice < den ∨ (twice = den ∧ quotient % 2 = 0) then quotient else quotient + 1

/-- `mantissa * 2 ^ exponent`. -/
structure Magnitude where
  mantissa : Nat
  exponent : Int
deriving DecidableEq

namespace Magnitude

def zero : Magnitude :=
  ⟨0, -1074⟩

/-- Numerator and denominator. -/
def ratio (x : Magnitude) : Nat × Nat :=
  (x.mantissa * Nat.pow 2 x.exponent.toNat, Nat.pow 2 (-x.exponent).toNat)

/-- The exponent of two at or just below `num / den`. -/
def binaryOrder (num den : Nat) : Int :=
  let estimate : Int := (num.log2 : Int) - den.log2
  if num * Nat.pow 2 (-estimate).toNat < den * Nat.pow 2 estimate.toNat then estimate - 1
  else estimate

/-- The magnitude nearest to `num / den`. -/
def ofRatio (num den : Nat) : Magnitude :=
  if num = 0 then zero
  else
    let exponent := max (binaryOrder num den - 52) (-1074)
    let mantissa := roundDiv (num * Nat.pow 2 (-exponent).toNat) (den * Nat.pow 2 exponent.toNat)
    if mantissa = Nat.pow 2 53 then ⟨Nat.pow 2 52, exponent + 1⟩ else ⟨mantissa, exponent⟩

def ofNat (n : Nat) : Magnitude :=
  ofRatio n 1

def mul (x y : Magnitude) : Magnitude :=
  ofRatio (x.ratio.1 * y.ratio.1) (x.ratio.2 * y.ratio.2)

def div (x y : Magnitude) : Magnitude :=
  ofRatio (x.ratio.1 * y.ratio.2) (x.ratio.2 * y.ratio.1)

/-- No larger than the largest binary64 value. -/
def isFinite (x : Magnitude) : Bool :=
  x.exponent ≤ 971

/-- `10 ^ n`, rounded. -/
def powerOfTen (n : Nat) : Magnitude :=
  ofNat (Nat.pow 10 n)

/-- `significand * 10 ^ scale` for a significand below `2 ^ 64`: the significand
is rounded, then multiplied or divided by a rounded power of ten, which is at
most `10 ^ 308`.  Below that range it is divided twice, and a value so small
that this is not enough is zero after it.  `none` when the result is not
finite. -/
def scaled? (significand : Nat) (scale : Int) : Option Magnitude :=
  let x := ofNat significand
  if x.mantissa = 0 then some x
  else if 308 < scale then none
  else if 0 ≤ scale then
    let y := x.mul (powerOfTen scale.toNat)
    if y.isFinite then some y else none
  else if -308 ≤ scale then some (x.div (powerOfTen (-scale).toNat))
  else some ((x.div (powerOfTen 308)).div (powerOfTen (min 308 (-scale - 308).toNat)))

end Magnitude

end Clearance

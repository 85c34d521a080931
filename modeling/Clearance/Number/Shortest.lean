/-
# Clearance.Number.Shortest -- the shortest decimal that reads back

A binary64 value is written with the fewest decimal digits that round to it, and
of those with the digits nearest to it, a tie going to the even digit.  The
candidates of one decimal scale are the two multiples of its power of ten around
the value, so the coarsest scale with a candidate that reads back has the
answer.

Layout: positional with at least one digit on each side of the point while the
value is below `10 ^ 16` and at least `10 ^ -5`; otherwise one digit before the
point and an exponent with its sign and without padding, `1e+20`, `1.5e-7`.  It is the
layout of the library that writes JSON text, and is assumed of it.
-/
import Clearance.Number.Magnitude

namespace Clearance

set_option autoImplicit false

/-- `digits * 10 ^ scale`. -/
structure ScaledDigits where
  digits : Nat
  scale : Int
deriving DecidableEq

namespace ScaledDigits

/-- Compare with `n * 2 ^ e`, exactly. -/
def compareBinary (d : ScaledDigits) (n : Nat) (e : Int) : Ordering :=
  compare (d.digits * Nat.pow 10 d.scale.toNat * Nat.pow 2 (-e).toNat)
    (n * Nat.pow 2 e.toNat * Nat.pow 10 (-d.scale).toNat)

end ScaledDigits

namespace Magnitude

/-- The decimal lies among the reals that round to `x`: no further away than half
the gap to the neighbour on its side, the half itself included when the mantissa
is even.  Below a power of two the gap is half as wide. -/
def readsBack (x : Magnitude) (d : ScaledDigits) : Bool :=
  let below := if x.mantissa = Nat.pow 2 52 ∧ -1074 < x.exponent then 1 else 2
  let even := x.mantissa % 2 = 0
  let low := d.compareBinary (4 * x.mantissa - below) (x.exponent - 2)
  let high := d.compareBinary (4 * x.mantissa + 2) (x.exponent - 2)
  (low = .gt ∨ (even ∧ low = .eq)) ∧ (high = .lt ∨ (even ∧ high = .eq))

/-- The best decimal of one scale that reads back. -/
def decimalAt? (x : Magnitude) (scale : Int) : Option ScaledDigits :=
  let num := x.ratio.1 * Nat.pow 10 (-scale).toNat
  let den := x.ratio.2 * Nat.pow 10 scale.toNat
  let low : ScaledDigits := ⟨num / den, scale⟩
  let high : ScaledDigits := ⟨num / den + 1, scale⟩
  match x.readsBack low, x.readsBack high with
  | true, true => some (if roundDiv num den = low.digits then low else high)
  | true, false => some low
  | false, true => some high
  | false, false => none

/-- The first decimal that reads back on the scales from `scale` downwards. -/
def searchDown (x : Magnitude) : Nat → Int → ScaledDigits
  | 0, scale =>
      ⟨x.ratio.1 * Nat.pow 10 (-scale).toNat / (x.ratio.2 * Nat.pow 10 scale.toNat), scale⟩
  | n + 1, scale => (x.decimalAt? scale).getD (searchDown x n (scale - 1))

/-- The shortest decimal of a value other than zero.  The search starts above the
leading digit, and seventeen digits always read back. -/
def shortest (x : Magnitude) : ScaledDigits :=
  let order := binaryOrder x.ratio.1 x.ratio.2 + 1
  searchDown x 20 (order * 30103 / 100000 + 1)

/-- An exponent of ten with its sign. -/
def exponentText (n : Int) : String :=
  (if n < 0 then "-" else "+") ++ n.natAbs.repr

/-- The decimal text. -/
def text (x : Magnitude) : String :=
  if x.mantissa = 0 then "0.0"
  else
    let ⟨digits, scale⟩ := x.shortest
    let ds := Nat.toDigits 10 digits
    let point : Int := ds.length + scale
    let zeros (n : Int) : List Char := List.replicate n.toNat '0'
    if 0 ≤ scale ∧ point ≤ 16 then String.ofList (ds ++ zeros scale ++ ['.', '0'])
    else if 0 < point ∧ point ≤ 16 then
      String.ofList (ds.take point.toNat ++ '.' :: ds.drop point.toNat)
    else if -5 < point ∧ point ≤ 0 then
      String.ofList ('0' :: '.' :: zeros (-point) ++ ds)
    else
      let mantissa := if ds.length ≤ 1 then ds else ds.take 1 ++ '.' :: ds.drop 1
      String.ofList mantissa ++ "e" ++ exponentText (point - 1)

end Magnitude

end Clearance

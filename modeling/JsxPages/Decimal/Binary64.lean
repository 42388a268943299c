/-!
# Binary floating point numbers in exact arithmetic

A finite number of the format is `significand * 2 ^ exponent` with at most 53 bits, no exponent
below −1074, and the least exponent that these allow. `ofRatio` rounds a quotient of natural numbers
to the nearest such number, a tie to the even significand; products and quotients are rounded once,
from the exact result.
-/

namespace JsxPages.Decimal

/-- A finite number without sign, `significand * 2 ^ exponent`. -/
structure Binary64 where
  significand : Nat
  exponent : Int
  deriving DecidableEq, Repr

namespace Binary64

def minExponent : Int := -1074

def maxExponent : Int := 971

/-- A significand has less than this many values. -/
def limit : Nat := Nat.pow 2 53

def zero : Binary64 := ⟨0, minExponent⟩

/-- The quotient rounded to the nearest integer, a tie to the even one. -/
def roundQuotient (numerator denominator : Nat) : Nat :=
  let quotient := numerator / denominator
  let twice := 2 * (numerator % denominator)
  if twice < denominator ∨ twice = denominator ∧ quotient % 2 = 0 then quotient else quotient + 1

/-- `numerator / (denominator * 2 ^ exponent)` as a quotient of natural numbers. -/
def scale (numerator denominator : Nat) (exponent : Int) : Nat × Nat :=
  (numerator * Nat.pow 2 (-exponent).toNat, denominator * Nat.pow 2 exponent.toNat)

/-- The exponent that a quotient is rounded at. -/
def ratioExponent (numerator denominator : Nat) : Int :=
  let guess := max (Int.ofNat numerator.log2 - Int.ofNat denominator.log2 - 53) minExponent
  let scaled := scale numerator denominator guess
  if scaled.1 / scaled.2 < limit then guess else guess + 1

/-- The number nearest to a quotient; `none` if it lies beyond the greatest number. -/
def ofRatio (numerator denominator : Nat) : Option Binary64 :=
  if numerator = 0 then
    some zero
  else
    let exponent := ratioExponent numerator denominator
    let scaled := scale numerator denominator exponent
    let significand := roundQuotient scaled.1 scaled.2
    let rounded : Binary64 :=
      if significand = limit then ⟨limit / 2, exponent + 1⟩ else ⟨significand, exponent⟩
    if rounded.exponent ≤ maxExponent then some rounded else none

def ofNat (n : Nat) : Option Binary64 :=
  ofRatio n 1

def ratio (x : Binary64) : Nat × Nat :=
  (x.significand * Nat.pow 2 x.exponent.toNat, Nat.pow 2 (-x.exponent).toNat)

/-- The rounded product; `none` if it is too great. -/
def mul (x y : Binary64) : Option Binary64 :=
  ofRatio (x.ratio.1 * y.ratio.1) (x.ratio.2 * y.ratio.2)

/-- The rounded quotient; `none` if it is too great. -/
def div (x y : Binary64) : Option Binary64 :=
  ofRatio (x.ratio.1 * y.ratio.2) (x.ratio.2 * y.ratio.1)

end Binary64

end JsxPages.Decimal

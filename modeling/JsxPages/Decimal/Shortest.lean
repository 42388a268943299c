import JsxPages.Decimal.Binary64
/-!
# The shortest decimal that reads back

Every real in a certain interval around a floating point number rounds to it; the ends belong to the
interval if the significand is even. `shortest` finds the decimal with the fewest digits in that
interval, and of two such the nearer one. It looks at one to seventeen digits in turn, and among the
decimals with that many digits only at the two around the number: if any lies in the interval, one
of them does.
-/

namespace JsxPages.Decimal

/-- The number `digits * 10 ^ exponent`. -/
structure Scaled where
  digits : Nat
  exponent : Int
  deriving DecidableEq, Repr

def Scaled.ratio (d : Scaled) : Nat × Nat :=
  (d.digits * Nat.pow 10 d.exponent.toNat, Nat.pow 10 (-d.exponent).toNat)

def digitCount (n : Nat) : Nat :=
  (Nat.toDigits 10 n).length

/-- Four times the significand, and the distances from there to the ends of the interval that
rounds to the number. Below a power of two the numbers lie twice as close. -/
def Binary64.margins (x : Binary64) : Nat × Nat :=
  (if x.significand = limit / 2 ∧ minExponent < x.exponent then 1 else 2, 2)

/-- Whether a decimal lies in the interval that rounds to `x`. -/
def Binary64.accepts (x : Binary64) (d : Scaled) : Bool :=
  let unit := (Binary64.mk 1 (x.exponent - 2)).ratio
  let value := d.ratio.1 * unit.2
  let low := (4 * x.significand - x.margins.1) * unit.1 * d.ratio.2
  let high := (4 * x.significand + x.margins.2) * unit.1 * d.ratio.2
  if x.significand % 2 = 0 then low ≤ value && value ≤ high else low < value && value < high

/-- The power of ten that the first digit of `x` stands for. -/
def Binary64.decimalExponent (x : Binary64) : Int :=
  Int.ofNat (digitCount (x.ratio.1 * Nat.pow 10 400 / x.ratio.2)) - 401

/-- The greatest decimal with `count` digits that is not above `x`. -/
def Binary64.below (x : Binary64) (count : Nat) : Scaled :=
  let exponent := x.decimalExponent + 1 - Int.ofNat count
  ⟨x.ratio.1 * Nat.pow 10 (-exponent).toNat / (x.ratio.2 * Nat.pow 10 exponent.toNat), exponent⟩

/-- Whether the decimal after `d` is nearer to `x` than `d`, or as near and even. -/
def Binary64.prefersNext (x : Binary64) (d : Scaled) : Bool :=
  let twice := 2 * x.ratio.1 * d.ratio.2
  let middle := (Scaled.ratio ⟨2 * d.digits + 1, d.exponent⟩).1 * x.ratio.2
  middle < twice || middle == twice && d.digits % 2 == 1

/-- The decimal with `count` digits that reads back as `x`, if there is one. -/
def Binary64.decimalOf? (x : Binary64) (count : Nat) : Option Scaled :=
  let d := x.below count
  let next : Scaled := ⟨d.digits + 1, d.exponent⟩
  if x.accepts d && !(x.accepts next && x.prefersNext d) then some d
  else if x.accepts next then some next
  else none

/-- The shortest decimal that reads back as `x`. -/
def Binary64.shortest (x : Binary64) : Scaled :=
  if x.significand = 0 then ⟨0, 0⟩
  else ((List.range 17).findSome? fun n => x.decimalOf? (n + 1)).getD (x.below 17)

end JsxPages.Decimal

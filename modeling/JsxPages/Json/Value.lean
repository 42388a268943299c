import JsxPages.Decimal.Shortest
/-!
# JSON values

The fields of an object are held in the order of their names; of fields with one name the last
counts.

A number is an integer of at most 64 bits or a floating point number. Integers are written as they
are; a floating point number by its shortest digits, in positional notation from 0.00001 to below
ten to the sixteenth with at least one place behind the point, beyond that with an exponent.

A floating point number is read from the first digits that fit 64 bits and a power of ten, by one
multiplication or division.
-/

namespace JsxPages.Json

open Decimal

/-! ### Numbers -/

inductive Number where
  | integer (value : Int)
  | real (negative : Bool) (magnitude : Binary64)
  deriving DecidableEq, Repr

namespace Number

/-- The digits of a decimal without the zeros at its end, and the power of ten that the first of
them stands for. -/
def significantDigits (d : Scaled) : List Char × Int :=
  let digits := Nat.toDigits 10 d.digits
  let kept := (digits.reverse.dropWhile (· == '0')).reverse
  (if kept.isEmpty then ['0'] else kept, d.exponent + Int.ofNat digits.length - 1)

/-- Digits with a point behind the first `places` of them, with zeros where there are none. -/
def positional (digits : List Char) (places : Nat) : List Char :=
  let whole := digits.take places ++ List.replicate (places - digits.length) '0'
  let fraction := digits.drop places
  whole ++ '.' :: (if fraction.isEmpty then ['0'] else fraction)

/-- Digits with a point behind the first of them and an exponent. -/
def scientific (digits : List Char) (exponent : Int) : List Char :=
  digits.take 1 ++ (if digits.length ≤ 1 then [] else '.' :: digits.drop 1) ++ ['e'] ++
    (if exponent < 0 then ['-'] else ['+']) ++ Nat.toDigits 10 exponent.natAbs

/-- The text of a floating point number without sign. -/
def magnitudeText (x : Binary64) : List Char :=
  let (digits, exponent) := significantDigits x.shortest
  if exponent < -5 ∨ 16 ≤ exponent then scientific digits exponent
  else if exponent < 0 then
    positional ('0' :: List.replicate (-exponent - 1).toNat '0' ++ digits) 1
  else positional digits (exponent.toNat + 1)

def text : Number → List Char
  | integer value => (toString value).toList
  | real negative magnitude => (if negative then ['-'] else []) ++ magnitudeText magnitude

/-- Divides by powers of ten until the exponent is within what one division can take. -/
def fromSmallParts : Nat → Binary64 → Int → Option Binary64
  | 0, _, _ => some .zero
  | fuel + 1, x, exponent =>
    if x.significand = 0 then some x
    else if -308 ≤ exponent then do x.div (← Binary64.ofNat (Nat.pow 10 exponent.natAbs))
    else do fromSmallParts fuel (← x.div (← Binary64.ofNat (Nat.pow 10 308))) (exponent + 308)

/-- The floating point number for a significand and a power of ten; `none` if it is too great. A
significand of 64 bits is used up by three divisions by 10 ^ 308. -/
def fromParts (significand : Nat) (exponent : Int) : Option Binary64 := do
  let x ← Binary64.ofNat significand
  if exponent < 0 then fromSmallParts 4 x exponent
  else if x.significand = 0 then some x
  else if exponent ≤ 308 then x.mul (← Binary64.ofNat (Nat.pow 10 exponent.toNat))
  else none

end Number

/-! ### Values -/

inductive Value where
  | null
  | boolean (value : Bool)
  | number (value : Number)
  | string (value : String)
  | array (items : List Value)
  /-- Fields in the order of their names. -/
  | object (fields : List (String × Value))

def setField (name : String) (value : Value) : List (String × Value) → List (String × Value)
  | [] => [(name, value)]
  | field :: rest =>
    if name < field.1 then (name, value) :: field :: rest
    else if name = field.1 then (name, value) :: rest
    else field :: setField name value rest

end JsxPages.Json

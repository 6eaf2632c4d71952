/-!
# Doubles as exact dyadic numbers

A finite double is kept as a sign, a natural mantissa and a power of two, so its value is exact.
Rounding goes to the nearest double, a half to the even mantissa, in natural number arithmetic; what
is beyond the largest double has none. `Double.nearest?` rounds a decimal literal once. A JSON
literal is rounded step by step, as `Double.ofParts?` has it: its digits, then the product or the
quotient with a power of ten that is a double itself.
-/
namespace Fleet

/-- The value `±mantissa · 2^exponent`. -/
structure Double where
  negative : Bool
  mantissa : Nat
  exponent : Int
  deriving DecidableEq, Repr

namespace Decimal

/-- The natural number nearest to `num / den`, a half going to the even one. -/
def nearestNat (num den : Nat) : Nat :=
  let quotient := num / den
  let remainder := num % den
  if 2 * remainder < den || (2 * remainder == den && quotient % 2 == 0) then quotient
  else quotient + 1

/-- `num / den` divided by `2^exponent`, again as a fraction. -/
def scaleDown (num den : Nat) (exponent : Int) : Nat × Nat :=
  if 0 ≤ exponent then (num, den * Nat.pow 2 exponent.toNat) else (num * Nat.pow 2 (-exponent).toNat, den)

end Decimal

namespace Double
open Decimal

def zero (negative : Bool) : Double := ⟨negative, 0, -1074⟩

/-- The least exponent that leaves at most 53 binary digits before the point, and is in range. -/
def exponentOf (num den : Nat) : Int :=
  let guess : Int := (num.log2 : Int) - (den.log2 : Int) - 52
  let (n, d) := scaleDown num den guess
  max (if n / d < Nat.pow 2 52 then guess - 1 else guess) (-1074)

def nearestRatio? (negative : Bool) (num den : Nat) : Option Double :=
  if num = 0 then some (zero negative)
  else
    let exponent := exponentOf num den
    let (n, d) := scaleDown num den exponent
    let mantissa := nearestNat n d
    let (mantissa, exponent) :=
      if mantissa = Nat.pow 2 53 then (Nat.pow 2 52, exponent + 1) else (mantissa, exponent)
    if 971 < exponent then none else some ⟨negative, mantissa, exponent⟩

/-- The double nearest to `±digits · 10^power`. Literals far outside the range are decided by
their magnitude alone, so that no huge power is ever formed. -/
def nearest? (negative : Bool) (digits : Nat) (power : Int) : Option Double :=
  let magnitude : Int := power + (Nat.toDigits 10 digits).length
  if digits = 0 then some (zero negative)
  else if 310 < magnitude then none
  else if magnitude < -330 then some (zero negative)
  else if 0 ≤ power then nearestRatio? negative (digits * Nat.pow 10 power.toNat) 1
  else nearestRatio? negative digits (Nat.pow 10 (-power).toNat)

def isZero (x : Double) : Bool := x.mantissa == 0

/-- The product of two doubles, rounded. -/
def times? (x y : Double) : Option Double :=
  let (num, den) := scaleDown (x.mantissa * y.mantissa) 1 (-(x.exponent + y.exponent))
  nearestRatio? (x.negative != y.negative) num den

/-- The quotient of two doubles, rounded. -/
def over? (x y : Double) : Option Double :=
  let (num, den) := scaleDown x.mantissa y.mantissa (y.exponent - x.exponent)
  nearestRatio? (x.negative != y.negative) num den

/-- The largest power of ten that is not beyond the largest double. -/
def maxPower : Nat := 308

def powerOfTen? (power : Nat) : Option Double :=
  if power ≤ maxPower then nearest? false 1 power else none

/-- `x · 10^power`, in one rounded step if the power of ten is a double. A number that is to be made
smaller by more than that is divided by the largest one first; three such steps leave nothing. -/
def scaleByTen? (x : Double) : Nat → Int → Option Double
  | 0, _ => some (zero x.negative)
  | steps + 1, power =>
    match powerOfTen? power.natAbs with
    | some ten => if 0 ≤ power then x.times? ten else x.over? ten
    | none =>
      if x.isZero then some x
      else if 0 ≤ power then none
      else do
        let largest ← powerOfTen? maxPower
        (← x.over? largest).scaleByTen? steps (power + maxPower)

/-- The double that the digits of a literal and the power of ten after them are read as. -/
def ofParts? (negative : Bool) (digits : Nat) (power : Int) : Option Double := do
  (← nearestRatio? negative digits 1).scaleByTen? 4 power

/-- The value without its sign if that is a natural number. -/
def magnitude? (x : Double) : Option Nat :=
  if 0 ≤ x.exponent then some (x.mantissa * Nat.pow 2 x.exponent.toNat)
  else
    let unit := Nat.pow 2 (-x.exponent).toNat
    if x.mantissa % unit = 0 then some (x.mantissa / unit) else none

end Double

end Fleet

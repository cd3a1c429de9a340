import DocTemplate.Binary64.Basic
import DocTemplate.Text.Decimal

/-!
# Rounding and arithmetic

A fraction is rounded to the nearest representable number, a tie to the one with an even
significand; products and quotients are the exact result rounded once.
-/

namespace DocTemplate.Binary64

open DocTemplate.Text

/-! ## Rounding a quotient to an integer -/

/-- The integer nearest to `num / den`, ties to even. -/
def roundEven (num den : Nat) : Nat :=
  let quotient := num / den
  let twice := 2 * (num % den)
  if twice < den || (twice == den && quotient % 2 == 0) then quotient else quotient + 1

/-- The integer nearest to `num / den`, ties upwards. -/
def roundUp (num den : Nat) : Nat := (2 * num + den) / (2 * den)

/-! ## Rounding a quotient to a number -/

/-- `num / den` multiplied by two to the power `-shift`, as a fraction. -/
def scaledDown (num den : Nat) (shift : Int) : Nat × Nat :=
  (num * twoTo (-shift).toNat, den * twoTo shift.toNat)

def floorLog2 (num den : Nat) : Int :=
  let estimate : Int := (Nat.log2 num : Int) - Nat.log2 den
  let (top, bottom) := scaledDown num den estimate
  if top < bottom then estimate - 1 else estimate

def unitExponent (num den : Nat) : Int := max (floorLog2 num den - 52) (-1074)

def ofRatio (negative : Bool) (num den : Nat) : Binary64 :=
  if num = 0 || den = 0 then zero negative
  else
    let unit := unitExponent num den
    let (top, bottom) := scaledDown num den unit
    saturated negative ((unit + 1074).toNat * fractionBound + roundEven top bottom)

def ofNat (n : Nat) : Binary64 := ofRatio false n 1

def ofInt (n : Int) : Binary64 := ofRatio (decide (n < 0)) n.natAbs 1

/-! ## Products and quotients -/

def mul (x y : Binary64) : Binary64 :=
  let negative := x.negative != y.negative
  if x.isNaN || y.isNaN then notANumber
  else if x.isInfinite || y.isInfinite then
    if x.isZero || y.isZero then notANumber else infinity negative
  else
    let (p, q) := x.fraction
    let (r, s) := y.fraction
    ofRatio negative (p * r) (q * s)

def div (x y : Binary64) : Binary64 :=
  let negative := x.negative != y.negative
  if x.isNaN || y.isNaN then notANumber
  else if x.isInfinite then
    if y.isInfinite then notANumber else infinity negative
  else if y.isInfinite then zero negative
  else if y.isZero then
    if x.isZero then notANumber else infinity negative
  else
    let (p, q) := x.fraction
    let (r, s) := y.fraction
    ofRatio negative (p * s) (q * r)

/-! ## Whole numbers -/

def isWhole (x : Binary64) : Bool :=
  x.isFinite && x.fraction.1 % x.fraction.2 == 0

/-- The nearest whole number, halves away from zero. -/
def roundHalfAway (x : Binary64) : Binary64 :=
  if x.isFinite then ofRatio x.negative (roundUp x.fraction.1 x.fraction.2) 1 else x

/-- The whole part of a finite number. -/
def truncate (x : Binary64) : Int :=
  let whole : Int := ((x.fraction.1 / x.fraction.2 : Nat) : Int)
  if x.negative then -whole else whole

/-! ## Powers of ten -/

/-- Beyond this power of ten a decimal is infinite, and below its inverse it is zero. -/
def decimalRange : Int := 400

/-- The number nearest to `coefficient * 10 ^ exponent`. -/
def ofScientific (negative : Bool) (coefficient : Nat) (exponent : Int) : Binary64 :=
  let width : Int := (digits coefficient).length
  if coefficient = 0 then zero negative
  else if decimalRange < exponent + width then infinity negative
  else if exponent + width < -decimalRange then zero negative
  else ofRatio negative (coefficient * tenTo exponent.toNat) (tenTo (-exponent).toNat)

def powerOfTen (exponent : Nat) : Binary64 := ofScientific false 1 exponent

end DocTemplate.Binary64

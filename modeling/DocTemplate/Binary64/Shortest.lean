import DocTemplate.Binary64.Arithmetic
import DocTemplate.Text.Decimal

/-!
# Shortest decimal

The fewest decimal digits that read back to a given finite number, and of those the decimal nearest
to it.  A decimal reads back when it lies between the midpoints to the neighbouring numbers; the
midpoints themselves count when the significand is even.
-/

namespace DocTemplate.Binary64

open DocTemplate.Text

structure Decimal where
  coefficient : Nat
  exponent : Int
  deriving DecidableEq, Repr

/-! ## The interval that rounds to a number -/

/-- Three numerators over one denominator: lower midpoint, value, upper midpoint. -/
structure Neighbourhood where
  lower : Nat
  value : Nat
  upper : Nat
  denominator : Nat
  closed : Bool

/-- The lower midpoint is only half as far away where the exponent steps. -/
def neighbourhood (x : Binary64) : Neighbourhood :=
  let m := x.significand
  let steps := m == fractionBound && 2 * fractionBound ≤ x.magnitude
  let unit := twoTo (x.scale - 2).toNat
  { lower := (4 * m - (if steps then 1 else 2)) * unit
    value := 4 * m * unit
    upper := (4 * m + 2) * unit
    denominator := twoTo (2 - x.scale).toNat
    closed := m % 2 == 0 }

/-! ## Search over grids -/

def Neighbourhood.holds (around : Neighbourhood) (multiple : Nat) (exponent : Int) : Bool :=
  let point := multiple * tenTo exponent.toNat * around.denominator
  let unit := tenTo (-exponent).toNat
  if around.closed then around.lower * unit ≤ point && point ≤ around.upper * unit
  else around.lower * unit < point && point < around.upper * unit

/-- The nearer of the two grid neighbours that lie in the interval, a tie to the even one. -/
def Neighbourhood.onGrid? (around : Neighbourhood) (exponent : Int) : Option Nat :=
  let num := around.value * tenTo (-exponent).toNat
  let den := around.denominator * tenTo exponent.toNat
  let below := num / den
  match around.holds below exponent, around.holds (below + 1) exponent with
  | true, true => some (roundEven num den)
  | true, false => some below
  | false, true => some (below + 1)
  | false, false => none

def Neighbourhood.search (around : Neighbourhood) : Nat → Int → Decimal
  | 0, exponent =>
      ⟨around.value * tenTo (-exponent).toNat / (around.denominator * tenTo exponent.toNat), exponent⟩
  | steps + 1, exponent =>
      match around.onGrid? exponent with
      | some multiple => ⟨multiple, exponent⟩
      | none => around.search steps (exponent - 1)

def Decimal.stripZeros : Nat → Decimal → Decimal
  | 0, d => d
  | steps + 1, d =>
      if d.coefficient ≠ 0 ∧ d.coefficient % 10 = 0 then
        Decimal.stripZeros steps ⟨d.coefficient / 10, d.exponent + 1⟩
      else d

/-- One more than the exponent of the greatest power of ten that is at most `num / den`. -/
def decimalWidth (num den : Nat) : Int :=
  if den ≤ num then (digits (num / den)).length
  else 1 - ((digits (den / num)).length : Int)

/-- Seventeen digits always read back; the coarsest grid has one digit or none. -/
def shortest (x : Binary64) : Decimal :=
  if x.isZero then ⟨0, 0⟩
  else
    let around := x.neighbourhood
    let width := decimalWidth around.value around.denominator
    Decimal.stripZeros 20 (around.search 20 width)

/-! ## Text -/

def Decimal.positional (d : Decimal) : List Char :=
  let text := digits d.coefficient
  if 0 ≤ d.exponent then text ++ List.replicate d.exponent.toNat '0'
  else
    let behind := (-d.exponent).toNat
    if behind < text.length then
      text.take (text.length - behind) ++ '.' :: text.drop (text.length - behind)
    else '0' :: '.' :: List.replicate (behind - text.length) '0' ++ text

def Decimal.scientific (d : Decimal) : List Char :=
  let text := digits d.coefficient
  let exponent := d.exponent + (text.length : Int) - 1
  let sign := if exponent < 0 then '-' else '+'
  let tail := 'e' :: sign :: digits exponent.natAbs
  match text with
  | [] => []
  | [first] => first :: tail
  | first :: rest => first :: '.' :: rest ++ tail

def signed (x : Binary64) (text : List Char) : List Char :=
  if x.negative then '-' :: text else text

end DocTemplate.Binary64

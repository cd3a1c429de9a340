/-!
# Binary floating-point numbers of 64 bits

A number is a sign and a magnitude, the 63 low bits of its interchange form: eleven bits of biased
exponent above 52 bits of fraction.  Magnitudes are ordered as the absolute values they stand for,
so a comparison is a comparison of signed magnitudes.
-/

namespace DocTemplate

def magnitudeBound : Nat := 0x8000000000000000

@[ext]
structure Binary64 where
  negative : Bool
  magnitude : Nat
  magnitude_lt : magnitude < magnitudeBound
  deriving DecidableEq

namespace Binary64

/-! ## Interchange form -/

def ofBits (bits : Nat) : Binary64 :=
  ⟨decide (magnitudeBound ≤ bits % (2 * magnitudeBound)), bits % magnitudeBound,
    Nat.mod_lt _ (by decide)⟩

def toBits (x : Binary64) : Nat := (if x.negative then magnitudeBound else 0) + x.magnitude

/-! ## Classes of numbers -/

def infinityMagnitude : Nat := 0x7FF0000000000000

def saturated (negative : Bool) (magnitude : Nat) : Binary64 :=
  ⟨negative, min magnitude infinityMagnitude,
    Nat.lt_of_le_of_lt (Nat.min_le_right _ _) (by decide)⟩

def zero (negative : Bool) : Binary64 := ⟨negative, 0, by decide⟩

def infinity (negative : Bool) : Binary64 := ⟨negative, infinityMagnitude, by decide⟩

def notANumber : Binary64 := ⟨false, 0x7FF8000000000000, by decide⟩

def one : Binary64 := ⟨false, 0x3FF0000000000000, by decide⟩

instance : Inhabited Binary64 := ⟨zero false⟩

def isNaN (x : Binary64) : Bool := infinityMagnitude < x.magnitude

def isInfinite (x : Binary64) : Bool := x.magnitude == infinityMagnitude

def isFinite (x : Binary64) : Bool := x.magnitude < infinityMagnitude

def isZero (x : Binary64) : Bool := x.magnitude == 0

def abs (x : Binary64) : Binary64 := { x with negative := false }

/-! ## Value of a finite number -/

def twoTo (exponent : Nat) : Nat := Nat.pow 2 exponent

def tenTo (exponent : Nat) : Nat := Nat.pow 10 exponent

theorem twoTo_pos (exponent : Nat) : 0 < twoTo exponent := Nat.pow_pos (by decide)

def fractionBound : Nat := 0x10000000000000

/-- A finite number has the absolute value `significand * 2 ^ scale`. -/
def significand (x : Binary64) : Nat :=
  if x.magnitude < fractionBound then x.magnitude
  else fractionBound + x.magnitude % fractionBound

def scale (x : Binary64) : Int := (max (x.magnitude / fractionBound) 1 : Nat) - 1075

def fraction (x : Binary64) : Nat × Nat :=
  (x.significand * twoTo x.scale.toNat, twoTo (-x.scale).toNat)

theorem fraction_snd_pos (x : Binary64) : 0 < x.fraction.2 := twoTo_pos _

/-! ## Order -/

/-- The position of a number among all numbers that are not NaN; both zeros share one. -/
def rank (x : Binary64) : Int := if x.negative then -(x.magnitude : Int) else x.magnitude

def compare? (x y : Binary64) : Option Ordering :=
  if x.isNaN || y.isNaN then none else some (compare x.rank y.rank)

def equals (x y : Binary64) : Bool := x.compare? y == some .eq

end Binary64

end DocTemplate

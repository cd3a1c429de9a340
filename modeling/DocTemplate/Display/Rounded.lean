import DocTemplate.Binary64.Fixed

/-!
# Rounded numbers

A number shown with a fixed count of decimals: it is scaled by a power of ten, rounded with halves
away from zero, and scaled back.  A number that cannot be scaled has no such text.
-/

namespace DocTemplate.Display

def maxPlaces : Nat := 20

def withoutSignOfZero (x : Binary64) : Binary64 := if x.isZero then .zero false else x

def rounded? (x : Binary64) (places : Nat) : Option (List Char) :=
  let places := min places maxPlaces
  let factor := Binary64.powerOfTen places
  let scaled := x.mul factor
  if scaled.isFinite then
    some ((withoutSignOfZero (scaled.roundHalfAway.div factor)).fixed places)
  else none

end DocTemplate.Display

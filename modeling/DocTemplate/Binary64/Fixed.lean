import DocTemplate.Binary64.Arithmetic
import DocTemplate.Text.Decimal

/-!
# Fixed decimals

A finite number written with a given number of decimals: the exact value rounded to the last
decimal, ties to even.
-/

namespace DocTemplate.Binary64

open DocTemplate.Text

def pointed (places n : Nat) : List Char :=
  let text := padded (places + 1) n
  let front := text.length - places
  if places = 0 then text else text.take front ++ '.' :: text.drop front

def fixed (places : Nat) (x : Binary64) : List Char :=
  let text := pointed places (roundEven (x.fraction.1 * tenTo places) x.fraction.2)
  if x.negative then '-' :: text else text

end DocTemplate.Binary64

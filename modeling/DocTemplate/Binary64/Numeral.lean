import DocTemplate.Binary64.Shortest
import DocTemplate.Text.Blank

/-!
# Numerals in data

Reading is lenient: blanks around the numeral do not matter, an empty text is zero, and a point
needs digits on one side only.  The result is the nearest number, which may be infinite.  Whole
numbers below `10 ^ 21` are written without a point, others with the fewest digits that read back.
-/

namespace DocTemplate.Binary64

open DocTemplate.Text

/-! ## Reading -/

def splitSign : List Char → Bool × List Char
  | '-' :: rest => (true, rest)
  | '+' :: rest => (false, rest)
  | text => (false, text)

/-- The exponent behind the mark; nothing where there is no mark. -/
def readScale? : List Char → Option Int
  | [] => some 0
  | c :: rest =>
      if c = 'e' ∨ c = 'E' then
        let (negative, rest) := splitSign rest
        (readNat? rest).map fun (size : Nat) => if negative then -(size : Int) else (size : Int)
      else none

def splitFraction (text : List Char) : List Char × List Char :=
  match text with
  | '.' :: rest => rest.span isDigit
  | _ => ([], text)

def readUnsigned? (negative : Bool) (text : List Char) : Option Binary64 :=
  let (whole, rest) := text.span isDigit
  let (fraction, rest) := splitFraction rest
  if whole.isEmpty && fraction.isEmpty then none
  else (readScale? rest).map fun exponent =>
    ofScientific negative (valueOf 0 (whole ++ fraction)) (exponent - fraction.length)

/-- Words such as `inf` are no numerals: the only letters are those of an exponent mark. -/
def readNumeral? (text : List Char) : Option Binary64 :=
  let text := trim text
  if text.isEmpty then some (zero false)
  else
    let (negative, unsigned) := splitSign text
    readUnsigned? negative unsigned

/-! ## Writing -/

def wholeBound : Binary64 := ofScientific false 1 21

def wholeDigits (x : Binary64) : List Char := digits (x.fraction.1 / x.fraction.2)

def numeralChars (x : Binary64) : List Char :=
  if x.isNaN then "NaN".toList
  else if x.isInfinite then x.signed "Infinity".toList
  else if x.isWhole && x.magnitude < wholeBound.magnitude then x.signed x.wholeDigits
  else x.signed x.shortest.positional

def numeral (x : Binary64) : String := String.ofList x.numeralChars

end DocTemplate.Binary64

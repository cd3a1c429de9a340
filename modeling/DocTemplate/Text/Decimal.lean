/-!
# Decimal numerals

Natural numbers written in decimal, and the numerals that are accepted as an index: an optional
plus sign and at least one digit, with a value below `2 ^ 64`.
-/

namespace DocTemplate.Text

def digitChar (digit : Nat) : Char := Char.ofNat (48 + digit)

def isDigit (c : Char) : Bool := 48 ≤ c.toNat && c.toNat ≤ 57

def digitValue (c : Char) : Nat := c.toNat - 48

def digits (n : Nat) : List Char :=
  if n < 10 then [digitChar n] else digits (n / 10) ++ [digitChar (n % 10)]
termination_by n
decreasing_by omega

def numeral (n : Nat) : String := String.ofList (digits n)

def signedNumeral (n : Int) : String :=
  if n < 0 then "-" ++ numeral n.natAbs else numeral n.natAbs

/-- Digits in front of `text` are read on top of `high`, most significant first. -/
def valueOf (high : Nat) (text : List Char) : Nat :=
  text.foldl (fun value c => 10 * value + digitValue c) high

def readNat? (text : List Char) : Option Nat :=
  if text.isEmpty || !text.all isDigit then none else some (valueOf 0 text)

def indexBound : Nat := 0x10000000000000000

def readIndex? (text : List Char) : Option Nat :=
  let unsigned := if text.head? = some '+' then text.drop 1 else text
  (readNat? unsigned).filter (· < indexBound)

def padded (width n : Nat) : List Char :=
  let text := digits n
  List.replicate (width - text.length) '0' ++ text

end DocTemplate.Text

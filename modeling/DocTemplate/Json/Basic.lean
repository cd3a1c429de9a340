import DocTemplate.Binary64.Basic

/-!
# JSON values

Whole numbers and floating-point numbers are told apart: `1` and `1.0` are different values.  The
fields of an object are listed as they stand in a text or as a record declares them; `Json.Order`
has the form in which they ascend.
-/

namespace DocTemplate

inductive Number where
  | whole (value : Int)
  | float (value : Binary64)
  deriving DecidableEq

inductive Json where
  | null
  | bool (value : Bool)
  | number (value : Number)
  | text (value : String)
  | list (items : List Json)
  | object (fields : List (String × Json))
  deriving Inhabited

namespace Json

def isNull : Json → Bool
  | .null => true
  | _ => false

def ofNat (n : Nat) : Json := .number (.whole n)

/-- What is not finite has no numeral and is written as null. -/
def ofFloat (x : Binary64) : Json := if x.isFinite then .number (.float x) else .null

end Json

end DocTemplate

import DocTemplate.Json.Printer
import DocTemplate.Binary64.Numeral

/-!
# Data values as text, number and truth

Data is typed loosely, so a value has a text it is shown as, a number it counts as, if any, and a
truth value.
-/

namespace DocTemplate.Json

/-! ## Text -/

mutual

/-- Null shows nothing, and the items of a list are joined by commas. -/
def displayText : Json → String
  | .null => ""
  | .bool true => "true"
  | .bool false => "false"
  | .number (.whole value) => Text.signedNumeral value
  | .number (.float value) => value.numeral
  | .text value => value
  | .list items => displayItems items
  | .object fields => compact (.object fields)

def displayItems : List Json → String
  | [] => ""
  | [item] => item.displayText
  | item :: rest => item.displayText ++ "," ++ displayItems rest

end

/-! ## Number -/

def truthNumber (value : Bool) : Binary64 := if value then .one else .zero false

mutual

/-- A list of one item counts as that item, an empty list as zero. -/
def toNumber? : Json → Option Binary64
  | .null => some (.zero false)
  | .bool value => some (truthNumber value)
  | .number (.whole value) => some (.ofInt value)
  | .number (.float value) => some value
  | .text value => Binary64.readNumeral? value.toList
  | .list items => toNumberOfItems? items
  | .object _ => none

def toNumberOfItems? : List Json → Option Binary64
  | [] => some (.zero false)
  | [item] => item.toNumber?
  | _ :: _ :: _ => none

end

/-! ## Truth -/

def isTrue : Json → Bool
  | .null => false
  | .bool value => value
  | .number (.whole value) => value != 0
  | .number (.float value) => !value.isZero && !value.isNaN
  | .text value => !value.isEmpty
  | .list _ => true
  | .object _ => true

end DocTemplate.Json

import DocTemplate.Json.Order
import DocTemplate.Binary64.Arithmetic

/-!
# Reading records

A record names its fields, or lists their values in the order that the fields have.  A field given
twice is refused; an optional field may be missing or null; other fields of an object are ignored,
and a list has no room for more values than there are fields.
-/

namespace DocTemplate.Json

/-! ## Values -/

def asText? : Json → Option String
  | .text value => some value
  | _ => none

def asBool? : Json → Option Bool
  | .bool value => some value
  | _ => none

def asFields? : Json → Option (List (String × Json))
  | .object fields => some fields
  | _ => none

def asList? : Json → Option (List Json)
  | .list items => some items
  | _ => none

def asNat? (bound : Nat) : Json → Option Nat
  | .number (.whole value) => if 0 ≤ value ∧ value < bound then some value.toNat else none
  | _ => none

def asUInt32? (value : Json) : Option UInt32 := (value.asNat? UInt32.size).map UInt32.ofNat

def asFloat? : Json → Option Binary64
  | .number (.whole value) => some (Binary64.ofInt value)
  | .number (.float value) => some value
  | _ => none

def asObject? : Json → Option Object
  | .object fields => some (.ofFields fields)
  | _ => none

def asTextMap? (value : Json) : Option (KeyMap String) := do
  let fields ← value.asFields?
  let entries ← fields.mapM fun (key, value) => value.asText?.map fun text => (key, text)
  return .ofList entries

/-! ## Fields of a record -/

/-- The values under the keys of a record, one after another; the last ones may be missing. -/
def positional? (keys : List String) (items : List Json) : Option (List (String × Json)) :=
  if items.length ≤ keys.length then some (keys.zip items) else none

def asRecord? (keys : List String) : Json → Option (List (String × Json))
  | .object fields => some fields
  | .list items => positional? keys items
  | _ => none

/-- The value of a field, if it is given; no answer if it is given twice. -/
def single? (fields : List (String × Json)) (key : String) : Option (Option Json) :=
  match fields.filter (·.1 == key) with
  | [] => some none
  | [(_, value)] => some (some value)
  | _ => none

def required? {α : Type} (read : Json → Option α) (fields : List (String × Json)) (key : String) :
    Option α := do
  let value ← single? fields key
  read (← value)

def optional? {α : Type} (read : Json → Option α) (fields : List (String × Json)) (key : String) :
    Option (Option α) := do
  match ← single? fields key with
  | none => return none
  | some .null => return none
  | some value => some <$> read value

/-- A missing field has the default; null does not stand for it. -/
def defaulted? {α : Type} (read : Json → Option α) (missing : α) (fields : List (String × Json))
    (key : String) : Option α := do
  match ← single? fields key with
  | none => return missing
  | some value => read value

/-! ## Writing records -/

def optionalField {α : Type} (write : α → Json) (key : String) :
    Option α → List (String × Json)
  | none => []
  | some value => [(key, write value)]

end DocTemplate.Json

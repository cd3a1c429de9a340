import DocTemplate.Json.Fields

/-!
# Bindings and conditions

A binding names the data an element shows; a condition names the data that decides whether it is
shown at all.
-/

namespace DocTemplate

/-! ## Bindings -/

structure DataBinding where
  path : String
  formatter : Option String
  fallback : Option String
  deriving DecidableEq, Repr

namespace DataBinding

def ofPath (path : String) : DataBinding := ⟨path, none, none⟩

def fallbackText (binding : DataBinding) : String := binding.fallback.getD ""

def toJson (binding : DataBinding) : Json :=
  .object (("path", .text binding.path) ::
    (Json.optionalField .text "formatter" binding.formatter ++
      Json.optionalField .text "fallback" binding.fallback))

def keys : List String := ["path", "formatter", "fallback"]

def ofJson? (value : Json) : Option DataBinding := do
  let fields ← value.asRecord? keys
  let path ← Json.required? Json.asText? fields "path"
  let formatter ← Json.optional? Json.asText? fields "formatter"
  let fallback ← Json.optional? Json.asText? fields "fallback"
  return ⟨path, formatter, fallback⟩

end DataBinding

/-! ## Conditions -/

structure Condition where
  expression : String
  invert : Bool
  deriving DecidableEq, Repr

namespace Condition

def ofExpression (expression : String) : Condition := ⟨expression, false⟩

def inverted (expression : String) : Condition := ⟨expression, true⟩

def toJson (condition : Condition) : Json :=
  .object (("expression", .text condition.expression) ::
    (if condition.invert then [("invert", .bool true)] else []))

def keys : List String := ["expression", "invert"]

def ofJson? (value : Json) : Option Condition := do
  let fields ← value.asRecord? keys
  let expression ← Json.required? Json.asText? fields "expression"
  let invert ← Json.defaulted? Json.asBool? false fields "invert"
  return ⟨expression, invert⟩

end Condition

end DocTemplate

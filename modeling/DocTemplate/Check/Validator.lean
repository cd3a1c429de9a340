import DocTemplate.Check.Finding
import DocTemplate.Render.Resolve
import DocTemplate.Template.Visit

/-!
# Validation

A template is checked on a tour through it that remembers where each identifier was first used.
-/

namespace DocTemplate

open DocTemplate.Text

/-! ## Conditions and bindings -/

def usesLogicalOperator (expression : String) : Bool :=
  occursIn "&&".toList expression.toList || occursIn "||".toList expression.toList

def TestError.cause (error : TestError) : FindingCause :=
  match error.fault with
  | .invalidOperand _ => .invalidOperand error
  | _ => .neverShown error

def Condition.findings (condition : Condition) : List FindingCause :=
  (if usesLogicalOperator condition.expression then [.logicalOperator condition.expression]
    else []) ++
    match Test.parse condition.expression with
    | .ok _ => []
    | .error error => [error.cause]

def DataPathError.cause (error : DataPathError) : FindingCause :=
  if error.fault = .empty then .emptyBinding else .invalidBinding error

def DataBinding.findings (binding : DataBinding) : List FindingCause :=
  (match DataPath.parse binding.path with
    | .ok _ => []
    | .error error => [error.cause]) ++
    binding.unknownFormatter?.toList.map fun name => .unknownFormatter name binding.path

/-! ## Tours -/

def Element.hasNoColumns : Element → Bool
  | .leaf (.table _ columns _) => columns.isEmpty
  | _ => false

structure Validator where
  findings : List Finding
  firstUses : List (String × ElementPath)

namespace Validator

def start : Validator := ⟨[], []⟩

def report (validator : Validator) (path : ElementPath) (causes : List FindingCause) : Validator :=
  { validator with findings := validator.findings ++ causes.map (⟨path, ·⟩) }

def useId (validator : Validator) (path : ElementPath) : Option String → Validator
  | none => validator
  | some id =>
      match validator.firstUses.lookup id with
      | some first => validator.report path [.duplicateId id first]
      | none => { validator with firstUses := (id, path) :: validator.firstUses }

def visit (validator : Validator) : Visit → Validator
  | .element path element =>
      (validator.useId path element.id).report path
        (if element.hasNoColumns then [.noColumns] else [])
  | .condition path condition => validator.report path condition.findings
  | .binding path binding => validator.report path binding.findings
  | .column _ _ => validator
  | .unknown path fields => validator.report path [.unknownElement (unknownType fields)]

def validate (validator : Validator) (template : Element) : List Finding × Validator :=
  let tour : Tour Validator := ⟨.root, { validator with findings := [], firstUses := [] }⟩
  let after := (tour.through visit template).state
  (after.findings, { after with findings := [] })

end Validator

def Element.findings (template : Element) : List Finding := (Validator.start.validate template).1

end DocTemplate

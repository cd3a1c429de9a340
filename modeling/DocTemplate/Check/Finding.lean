import DocTemplate.Data.Test
import DocTemplate.Template.Path

/-!
# Findings

What can be said about a template without a view: an error is something that can never render as
intended, a warning something that probably will not.
-/

namespace DocTemplate

inductive Level where
  | warning
  | error
  deriving DecidableEq, Repr

def Level.name : Level → String
  | .warning => "warning"
  | .error => "error"

inductive FindingCause where
  | duplicateId (id : String) (first : ElementPath)
  | noColumns
  | logicalOperator (expression : String)
  | neverShown (error : TestError)
  | invalidOperand (error : TestError)
  | emptyBinding
  | invalidBinding (error : DataPathError)
  | unknownFormatter (name : String) (path : String)
  | unknownElement (name : String)
  deriving DecidableEq, Repr

namespace FindingCause

def level : FindingCause → Level
  | .invalidOperand _ => .error
  | .invalidBinding _ => .error
  | .unknownElement _ => .error
  | _ => .warning

def message : FindingCause → String
  | .duplicateId id first =>
      "Duplicate element id '" ++ id ++ "' (first used at " ++ first.text ++ ")"
  | .noColumns => "Table has no columns and will render only empty rows"
  | .logicalOperator expression =>
      "Condition '" ++ expression ++
        "' uses && or ||, which are not supported and will split incorrectly"
  | .neverShown error => error.message ++ "; the element will never be shown"
  | .invalidOperand error => error.message
  | .emptyBinding => "Binding has an empty path and will always use its fallback"
  | .invalidBinding error => error.message
  | .unknownFormatter name path =>
      "Unknown formatter '" ++ name ++ "' on '" ++ path ++ "'; the value is shown unformatted"
  | .unknownElement name => "Unknown element type '" ++ name ++ "'; it will not be rendered"

end FindingCause

structure Finding where
  path : ElementPath
  cause : FindingCause
  deriving DecidableEq, Repr

namespace Finding

def level (finding : Finding) : Level := finding.cause.level

def message (finding : Finding) : String := finding.cause.message

def isError (finding : Finding) : Bool := finding.level == .error

def text (finding : Finding) : String :=
  finding.level.name ++ " at " ++ finding.path.reportText ++ ": " ++ finding.message

def toJson (finding : Finding) : Json :=
  .object [("level", .text finding.level.name), ("message", .text finding.message),
    ("path", finding.path.toJson)]

end Finding

end DocTemplate

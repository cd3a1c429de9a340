import DocTemplate.Data.Test
import DocTemplate.Template.Path

/-!
# Diagnostics

What a template author should hear about a render: it goes on regardless, but an element was left
out or a value was shown as it is.
-/

namespace DocTemplate

inductive DiagnosticCause where
  | unknownTag (name : String)
  | malformedCondition (error : TestError)
  | unknownFormatter (name : String)
  deriving DecidableEq, Repr

structure Diagnostic where
  path : ElementPath
  cause : DiagnosticCause
  deriving DecidableEq, Repr

namespace DiagnosticCause

def kind : DiagnosticCause → String
  | .unknownTag _ => "unknownTag"
  | .malformedCondition _ => "malformedCondition"
  | .unknownFormatter _ => "unknownFormatter"

def title : DiagnosticCause → String
  | .unknownTag _ => "unknown tag"
  | .malformedCondition _ => "malformed condition"
  | .unknownFormatter _ => "unknown formatter"

def message : DiagnosticCause → String
  | .unknownTag name => "Element type '" ++ name ++ "' is not supported by this renderer"
  | .malformedCondition error => error.message
  | .unknownFormatter name => "Formatter '" ++ name ++ "' is not recognised"

end DiagnosticCause

namespace Diagnostic

def text (diagnostic : Diagnostic) : String :=
  diagnostic.cause.title ++ " at " ++ diagnostic.path.reportText ++ ": " ++
    diagnostic.cause.message

def toJson (diagnostic : Diagnostic) : Json :=
  .object [("path", diagnostic.path.toJson), ("kind", .text diagnostic.cause.kind),
    ("message", .text diagnostic.cause.message)]

end Diagnostic

end DocTemplate

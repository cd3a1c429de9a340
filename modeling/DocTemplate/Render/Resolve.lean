import DocTemplate.Data.Lookup
import DocTemplate.Display.Formatter
import DocTemplate.Template.Binding
import Std.Data.HashMap

/-!
# Resolving bindings

The text a binding shows: the value at its path, through its formatter, or its fallback when there
is no value, no such path, or no way to format it.  Paths that have been read once are remembered.
-/

namespace DocTemplate

inductive ResolveError where
  | path (error : DataPathError)
  | format (error : FormatError)
  deriving DecidableEq, Repr

def ResolveError.message : ResolveError → String
  | .path error => error.message
  | .format error => error.message

abbrev PathMemory := Std.HashMap String DataPath

namespace PathMemory

def path (source : String) : StateM PathMemory (Except DataPathError DataPath) := do
  match (← get).get? source with
  | some path => return .ok path
  | none =>
      match DataPath.parse source with
      | .error error => return .error error
      | .ok path =>
          modify (·.insert source path)
          return .ok path

/-- The value at a path; none for a text that is no path. -/
def lookup? (source : String) (view : View) (scope : Option Json) :
    StateM PathMemory (Option Json) := do
  match ← path source with
  | .error _ => return none
  | .ok path => return path.lookup? view scope

end PathMemory

namespace DataBinding

def shown (binding : DataBinding) (pattern : String) (value : Json) : Except FormatError String :=
  match binding.formatter with
  | none => .ok value.displayText
  | some spec => (Formatter.parse spec).apply value pattern

/-- The text of the bound value, or nothing where there is no value. -/
def tryResolve (binding : DataBinding) (pattern : String) (view : View) (scope : Option Json) :
    StateM PathMemory (Except ResolveError (Option String)) := do
  match ← PathMemory.path binding.path with
  | .error error => return .error (.path error)
  | .ok path =>
      match path.lookup? view scope with
      | none => return .ok none
      | some value =>
          match binding.shown pattern value with
          | .error error => return .error (.format error)
          | .ok text => return .ok (some text)

def resolve (binding : DataBinding) (pattern : String) (view : View) (scope : Option Json) :
    StateM PathMemory String := do
  match ← binding.tryResolve pattern view scope with
  | .ok (some text) => return text
  | _ => return binding.fallbackText

def unknownFormatter? (binding : DataBinding) : Option String :=
  (binding.formatter.map Formatter.parse).bind fun formatter =>
    if formatter.isKnown then none else some formatter.name

end DataBinding

end DocTemplate

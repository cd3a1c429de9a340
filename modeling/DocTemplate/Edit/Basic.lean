import DocTemplate.Template.Document
import DocTemplate.Template.Path

/-!
# Edits

The changes an editor can make to a document, addressed by element paths, and the reasons for which
a change is refused.
-/

namespace DocTemplate

inductive Edit where
  | updateElement (path : ElementPath) (patch : Object)
  | addElement (parent : ElementPath) (element : Element)
  | insertElement (parent : ElementPath) (index : Nat) (element : Element)
  | removeElement (path : ElementPath)
  | moveElement (source target : ElementPath) (index : Nat)
  | updateTokens (tokens : DesignTokens)

inductive EditError where
  | notFound (path : ElementPath)
  | notAContainer (path : ElementPath)
  | cycle (source target : ElementPath)
  | cannotMoveRoot
  | protectedField (field : String)
  | invalidPatch (path : ElementPath)
  deriving DecidableEq, Repr

namespace EditError

def noFittingElement : String := "data did not match any variant of untagged enum Element"

def message : EditError → String
  | .notFound path => "No element at '" ++ path.text ++ "'"
  | .notAContainer path => "Element at '" ++ path.text ++ "' cannot have children"
  | .cycle source target =>
      "Cannot move '" ++ source.text ++ "' into its own subtree at '" ++ target.text ++ "'"
  | .cannotMoveRoot => "The root element cannot be moved"
  | .protectedField field => "Patch may not change '" ++ field ++ "'"
  | .invalidPatch path => "Patch for '" ++ path.text ++ "' is invalid: " ++ noFittingElement

def chain : EditError → List String
  | .invalidPatch path => [message (.invalidPatch path), noFittingElement]
  | error => [error.message]

end EditError

namespace Edit

def label : Edit → String
  | .updateElement _ _ => "Update element"
  | .addElement _ _ => "Add element"
  | .insertElement _ _ _ => "Insert element"
  | .removeElement _ => "Remove element"
  | .moveElement _ _ _ => "Move element"
  | .updateTokens _ => "Update tokens"

/-! ## Interchange form -/

/-- An edit is an object with a single field, named for the kind of edit. -/
def tagged (name : String) (fields : List (String × Json)) : Json := .object [(name, .object fields)]

def toJson : Edit → Json
  | .updateElement path patch =>
      tagged "UpdateElement" [("path", path.toJson), ("patch", patch.toJson)]
  | .addElement parent element =>
      tagged "AddElement" [("parentPath", parent.toJson), ("element", element.toJson)]
  | .insertElement parent index element =>
      tagged "InsertElement"
        [("parentPath", parent.toJson), ("index", .ofNat index), ("element", element.toJson)]
  | .removeElement path => tagged "RemoveElement" [("path", path.toJson)]
  | .moveElement source target index =>
      tagged "MoveElement"
        [("from", source.toJson), ("toParent", target.toJson), ("index", .ofNat index)]
  | .updateTokens tokens => tagged "UpdateTokens" [("tokens", tokens.toJson)]

def asIndex? : Json → Option Nat := Json.asNat? Text.indexBound

open Json (required?)

/-- The parts of each kind of edit in their order. -/
def keys : String → List String
  | "UpdateElement" => ["path", "patch"]
  | "AddElement" => ["parentPath", "element"]
  | "InsertElement" => ["parentPath", "index", "element"]
  | "RemoveElement" => ["path"]
  | "MoveElement" => ["from", "toParent", "index"]
  | "UpdateTokens" => ["tokens"]
  | _ => []

def ofFields? (name : String) (fields : List (String × Json)) : Option Edit :=
  match name with
  | "UpdateElement" => do
      let path ← required? ElementPath.ofJson? fields "path"
      let patch ← required? Json.asObject? fields "patch"
      return .updateElement path patch
  | "AddElement" => do
      let parent ← required? ElementPath.ofJson? fields "parentPath"
      let element ← required? Element.ofJson? fields "element"
      return .addElement parent element
  | "InsertElement" => do
      let parent ← required? ElementPath.ofJson? fields "parentPath"
      let index ← required? asIndex? fields "index"
      let element ← required? Element.ofJson? fields "element"
      return .insertElement parent index element
  | "RemoveElement" => do
      let path ← required? ElementPath.ofJson? fields "path"
      return .removeElement path
  | "MoveElement" => do
      let source ← required? ElementPath.ofJson? fields "from"
      let target ← required? ElementPath.ofJson? fields "toParent"
      let index ← required? asIndex? fields "index"
      return .moveElement source target index
  | "UpdateTokens" => do
      let tokens ← required? DesignTokens.ofJson? fields "tokens"
      return .updateTokens tokens
  | _ => none

def ofJson? : Json → Option Edit
  | .object [(name, parts)] => do
      let fields ← parts.asRecord? (keys name)
      ofFields? name fields
  | _ => none

def listOfJson? (value : Json) : Option (List Edit) := do
  (← value.asList?).mapM ofJson?

end Edit

end DocTemplate

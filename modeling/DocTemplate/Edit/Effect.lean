import DocTemplate.Edit.Arena
import DocTemplate.Edit.Basic

/-!
# Effects

The effect of an edit on a tree in an arena: a new root.  An edit allocates as it goes; when it is
refused, what it has allocated is cut off again.
-/

namespace DocTemplate

abbrev Effect := ExceptT EditError (StateM Arena)

namespace Effect

def fail {α : Type} (error : EditError) : Effect α := throw error

def orFail {α : Type} (error : EditError) : Option α → Effect α
  | some value => pure value
  | none => fail error

def resolve (root : NodeId) (path : ElementPath) (error : EditError) : Effect NodeId := do
  orFail error ((← get).resolve? root path)

def relink (root : NodeId) (path : ElementPath) (replacement : NodeId) (error : EditError) :
    Effect NodeId := do
  orFail error (← (Arena.relink? root replacement path : StateM Arena (Option NodeId)))

def containerAt (root : NodeId) (path : ElementPath) : Effect NodeId := do
  let id ← resolve root path (.notFound path)
  if ((← get).shapeOf id).isContainer then return id else fail (.notAContainer path)

/-! ## Patches -/

/-- A null removes a field, any other value takes its place. -/
def merge (fields : List (String × Json)) (patch : Object) : List (String × Json) :=
  fields.filter (fun (key, _) => (patch.get? key).isNone) ++
    patch.fields.filter fun (_, value) => !value.isNull

def protectedField? (patch : Object) : Option String :=
  ["type", "children"].find? fun field => (patch.get? field).isSome

def patchedShape? (shape : Shape) (patch : Object) : Option Shape := do
  let fields ← (shape.element []).toJson.asFields?
  (Element.ofJson? (.object (merge fields patch))).map Element.shape

def update (root : NodeId) (path : ElementPath) (patch : Object) : Effect NodeId := do
  match protectedField? patch with
  | some field => fail (.protectedField field)
  | none =>
      let target ← resolve root path (.notFound path)
      let arena ← get
      let shape ← orFail (.invalidPatch path) (patchedShape? (arena.shapeOf target) patch)
      let replacement ← (Arena.alloc shape (arena.childrenOf target) : StateM Arena NodeId)
      relink root path replacement (.notFound path)

/-! ## Children -/

/-- An index past the end stands for the end. -/
def insertAt (children : List NodeId) (index : Nat) (child : NodeId) : List NodeId :=
  children.take index ++ child :: children.drop index

def link (root : NodeId) (parent : ElementPath) (index : Nat) (child : NodeId) :
    Effect NodeId := do
  let id ← containerAt root parent
  let arena ← get
  let replacement ←
    (Arena.alloc (arena.shapeOf id) (insertAt (arena.childrenOf id) index child) :
      StateM Arena NodeId)
  relink root parent replacement (.notFound parent)

/-- The new root and the node that is no longer below it. -/
def unlink (root : NodeId) (parent : ElementPath) (index : Nat) : Effect (NodeId × NodeId) := do
  let error := EditError.notFound (parent.child index)
  let id ← resolve root parent error
  let arena ← get
  let removed ← orFail error (arena.childrenOf id)[index]?
  let replacement ←
    (Arena.alloc (arena.shapeOf id) ((arena.childrenOf id).eraseIdx index) : StateM Arena NodeId)
  let relinked ← relink root parent replacement error
  return (relinked, removed)

def insert (root : NodeId) (parent : ElementPath) (index : Nat) (element : Element) :
    Effect NodeId := do
  let _ ← containerAt root parent
  let child ← (Arena.insertTree element : StateM Arena NodeId)
  link root parent index child

def endOf (root : NodeId) (parent : ElementPath) : Effect Nat := do
  let arena ← get
  return ((arena.resolve? root parent).map fun id => (arena.childrenOf id).length).getD 0

def add (root : NodeId) (parent : ElementPath) (element : Element) : Effect NodeId := do
  insert root parent (← endOf root parent) element

/-- An empty document takes the place of a removed root. -/
def remove (root : NodeId) (path : ElementPath) : Effect NodeId := do
  match path.splitLast? with
  | none => (Arena.insertTree .blank : StateM Arena NodeId)
  | some (parent, index) =>
      let (relinked, _) ← unlink root parent index
      return relinked

/-! ## Moves -/

def shiftIndex (removed index : Nat) : Nat := if removed < index then index - 1 else index

/-- The path in a tree from which the child `removed` of `parent` has been taken. -/
def shiftPath (parent : ElementPath) (removed : Nat) (path : ElementPath) : ElementPath :=
  match parent.isPrefixOf? path with
  | some (index :: rest) => parent ++ shiftIndex removed index :: rest
  | _ => path

/-- Target and index of a move, in the tree without the moved element. -/
def moveTarget (source target : ElementPath) (index : Nat) : ElementPath × Nat :=
  match source.splitLast? with
  | none => (target, index)
  | some (parent, position) =>
      if target = parent then (target, shiftIndex position index)
      else (shiftPath parent position target, index)

def move (root : NodeId) (source target : ElementPath) (index : Nat) : Effect NodeId := do
  match source.splitLast? with
  | none => fail .cannotMoveRoot
  | some (parent, position) =>
      if target.startsWith source then fail (.cycle source target)
      else
        let _ ← containerAt root target
        let (detached, moved) ← unlink root parent position
        let (target, index) := moveTarget source target index
        link detached target index moved

end Effect

namespace Edit

def effect (root : NodeId) : Edit → Effect NodeId
  | .updateElement path patch => Effect.update root path patch
  | .addElement parent element => Effect.add root parent element
  | .insertElement parent index element => Effect.insert root parent index element
  | .removeElement path => Effect.remove root path
  | .moveElement source target index => Effect.move root source target index
  | .updateTokens _ => return root

/-- The new root in the arena after the edit; a refused edit leaves the arena as it was. -/
def applyTo (edit : Edit) (arena : Arena) (root : NodeId) : Except EditError NodeId × Arena :=
  match (edit.effect root).run.run arena with
  | (.ok root, after) => (.ok root, after)
  | (.error error, after) => (.error error, after.truncate arena.size)

def landedAt (arena : Arena) (root : NodeId) (parent : ElementPath) (index : Nat) : ElementPath :=
  let count := ((arena.resolve? root parent).map fun id => (arena.childrenOf id).length).getD 0
  parent.child (min index (count - 1))

/-- Where the element stands in the tree after the edit; for removals, where it stood. -/
def resultPath (edit : Edit) (arena : Arena) (root : NodeId) : ElementPath :=
  match edit with
  | .updateElement path _ => path
  | .removeElement path => path
  | .addElement parent _ =>
      let count := ((arena.resolve? root parent).map fun id => (arena.childrenOf id).length).getD 0
      parent.child (count - 1)
  | .insertElement parent index _ => landedAt arena root parent index
  | .moveElement source target index =>
      let (target, index) := Effect.moveTarget source target index
      landedAt arena root target index
  | .updateTokens _ => .root

end Edit

end DocTemplate

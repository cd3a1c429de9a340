import DocTemplate.Edit.Effect
import DocTemplate.Proofs.Template.Position

/-!
# Edits of plain documents

The six edits on a document that is held as a value: each is a search for the element it is about
and a change of the tree at that place.  Nothing is shared and nothing is stored.
-/

namespace DocTemplate.Edit

/-! ## Single edits -/

def containerIn (path : ElementPath) (tree : Element) : Except EditError Element :=
  match tree.find? path with
  | none => .error (.notFound path)
  | some element => if element.isContainer then .ok element else .error (.notAContainer path)

def updateIn (path : ElementPath) (patch : Object) (tree : Element) : Except EditError Element :=
  match Effect.protectedField? patch with
  | some field => .error (.protectedField field)
  | none =>
      match tree.find? path with
      | none => .error (.notFound path)
      | some target =>
          match Effect.patchedShape? target.shape patch with
          | none => .error (.invalidPatch path)
          | some shape => .ok (tree.modifyAt (fun element => shape.element element.children) path)

def insertIn (parent : ElementPath) (index : Nat) (child tree : Element) :
    Except EditError Element :=
  match containerIn parent tree with
  | .error error => .error error
  | .ok _ => .ok (tree.modifyAt (·.insertChild index child) parent)

def removeIn (path : ElementPath) (tree : Element) : Except EditError Element :=
  if path.isRoot then .ok .blank
  else
    match tree.find? path with
    | none => .error (.notFound path)
    | some _ => .ok (tree.eraseAt path)

def moveIn (source target : ElementPath) (index : Nat) (tree : Element) :
    Except EditError Element :=
  if source.isRoot then .error .cannotMoveRoot
  else if target.startsWith source then .error (.cycle source target)
  else
    match containerIn target tree, tree.find? source with
    | .error error, _ => .error error
    | .ok _, none => .error (.notFound source)
    | .ok _, some moved =>
        let (target, index) := Effect.moveTarget source target index
        insertIn target index moved (tree.eraseAt source)

/-! ## Edits -/

def onTree : Edit → Element → Except EditError Element
  | .updateElement path patch, tree => updateIn path patch tree
  | .addElement parent child, tree => insertIn parent (tree.childCountAt parent) child tree
  | .insertElement parent index child, tree => insertIn parent index child tree
  | .removeElement path, tree => removeIn path tree
  | .moveElement source target index, tree => moveIn source target index tree
  | .updateTokens _, tree => .ok tree

/-- The place in the new tree of the element an edit is about, told from the tree before the
edit; for removals, the place where it stood. -/
def placeIn (tree : Element) : Edit → ElementPath
  | .updateElement path _ => path
  | .addElement parent _ => parent.child (tree.childCountAt parent)
  | .insertElement parent index _ => parent.child (min index (tree.childCountAt parent))
  | .removeElement path => path
  | .moveElement source target index =>
      let (target, index) := Effect.moveTarget source target index
      target.child (min index ((tree.eraseAt source).childCountAt target))
  | .updateTokens _ => .root

def tokensOver (tokens : DesignTokens) : Edit → DesignTokens
  | .updateTokens replacement => replacement
  | _ => tokens

def onDocument (edit : Edit) (document : Document) : Except EditError Document :=
  match edit.onTree document.template with
  | .error error => .error error
  | .ok template => .ok ⟨template, edit.tokensOver document.tokens⟩

def isStructural : Edit → Bool
  | .updateTokens _ => false
  | _ => true

variable {edit : Edit} {document : Document}

theorem tokensOver_of_isStructural (h : edit.isStructural = true) (tokens : DesignTokens) :
    edit.tokensOver tokens = tokens := by
  cases edit with
  | updateTokens replacement => cases h
  | _ => rfl

theorem onDocument_of_ok {template : Element} (h : edit.onTree document.template = .ok template) :
    edit.onDocument document = .ok ⟨template, edit.tokensOver document.tokens⟩ := by
  rw [onDocument, h]

theorem onDocument_of_error {error : EditError} (h : edit.onTree document.template = .error error) :
    edit.onDocument document = .error error := by
  rw [onDocument, h]

/-! ## Edits that succeed -/

theorem containerIn_eq_ok {path : ElementPath} {tree element : Element}
    (h : containerIn path tree = .ok element) :
    tree.find? path = some element ∧ element.isContainer = true := by
  rw [containerIn] at h
  cases hfound : tree.find? path with
  | none =>
      rw [hfound] at h
      cases h
  | some found =>
      simp only [hfound] at h
      split at h
      · next hcontainer =>
          cases h
          exact ⟨rfl, hcontainer⟩
      · cases h

theorem updateIn_eq_ok {path : ElementPath} {patch : Object} {tree after : Element}
    (h : updateIn path patch tree = .ok after) :
    Effect.protectedField? patch = none ∧ ∃ target shape, tree.find? path = some target ∧
      Effect.patchedShape? target.shape patch = some shape ∧
      after = tree.modifyAt (fun element => shape.element element.children) path := by
  rw [updateIn] at h
  split at h
  · cases h
  · next hpatch =>
      split at h
      · cases h
      · next target hfound =>
          split at h
          · cases h
          · next shape hshape =>
              cases h
              exact ⟨hpatch, target, shape, hfound, hshape, rfl⟩

theorem insertIn_eq_ok {parent : ElementPath} {index : Nat} {child tree after : Element}
    (h : insertIn parent index child tree = .ok after) :
    ∃ element, tree.find? parent = some element ∧ element.isContainer = true ∧
      after = tree.modifyAt (·.insertChild index child) parent := by
  rw [insertIn] at h
  cases hcontainer : containerIn parent tree with
  | error error =>
      rw [hcontainer] at h
      cases h
  | ok element =>
      rw [hcontainer] at h
      cases h
      obtain ⟨hfound, hshape⟩ := containerIn_eq_ok hcontainer
      exact ⟨element, hfound, hshape, rfl⟩

theorem insertIn_of_container {parent : ElementPath} {tree target : Element} (index : Nat)
    (child : Element) (hfound : tree.find? parent = some target)
    (hcontainer : target.isContainer = true) :
    insertIn parent index child tree = .ok (tree.modifyAt (·.insertChild index child) parent) := by
  simp [insertIn, containerIn, hfound, hcontainer]

theorem removeIn_of_found {path : ElementPath} {tree removed : Element} (hpath : path ≠ [])
    (h : tree.find? path = some removed) : removeIn path tree = .ok (tree.eraseAt path) := by
  simp [removeIn, ElementPath.isRoot, hpath, h]

theorem childCountAt_of_insertIn {parent : ElementPath} {index : Nat} {child tree after : Element}
    (h : insertIn parent index child tree = .ok after) :
    after.childCountAt parent = tree.childCountAt parent + 1 := by
  obtain ⟨element, hfound, hcontainer, rfl⟩ := insertIn_eq_ok h
  have hafter := Element.find?_modifyAt (·.insertChild index child) hfound
  rw [Element.childCountAt, Element.childCountAt, hafter, hfound]
  simp only [Option.map_some, Option.getD_some, Element.insertChild,
    Element.children_withChildren hcontainer, List.length_append, List.length_cons,
    List.length_take, List.length_drop]
  omega

theorem moveIn_eq_ok {source target : ElementPath} {index : Nat} {tree after : Element}
    (h : moveIn source target index tree = .ok after) :
    ∃ moved, tree.find? source = some moved ∧
      insertIn (Effect.moveTarget source target index).1
        (Effect.moveTarget source target index).2 moved (tree.eraseAt source) = .ok after := by
  rw [moveIn] at h
  split at h
  · cases h
  · split at h
    · cases h
    · split at h
      · cases h
      · cases h
      · next moved _ hfound => exact ⟨moved, hfound, h⟩

/-! ## Edits that are refused -/

theorem insertIn_of_missing {parent : ElementPath} {tree : Element} (index : Nat)
    (child : Element) (h : tree.find? parent = none) :
    insertIn parent index child tree = .error (.notFound parent) := by
  simp [insertIn, containerIn, h]

theorem insertIn_of_leaf {parent : ElementPath} {tree target : Element} (index : Nat)
    (child : Element) (hfound : tree.find? parent = some target)
    (hleaf : target.isContainer = false) :
    insertIn parent index child tree = .error (.notAContainer parent) := by
  simp [insertIn, containerIn, hfound, hleaf]

theorem removeIn_of_missing {path : ElementPath} {tree : Element} (h : tree.find? path = none) :
    removeIn path tree = .error (.notFound path) := by
  have hpath : path ≠ [] := by
    rintro rfl
    cases h
  simp [removeIn, ElementPath.isRoot, hpath, h]

end DocTemplate.Edit

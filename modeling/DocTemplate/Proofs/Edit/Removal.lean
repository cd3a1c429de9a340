import DocTemplate.Edit.Effect
import DocTemplate.Proofs.Template.Position

/-!
# Trees without one of their elements

Taking an element out of a tree moves the later children of its parent up by one, and nothing else.
So every element outside it is found again at its shifted path, without the removed element where it
held it.
-/

namespace DocTemplate

theorem ElementPath.isPrefixOf?_cons_cons (first index : Nat) (parent rest : ElementPath) :
    (first :: parent).isPrefixOf? (index :: rest) =
      if first == index then parent.isPrefixOf? rest else none := rfl

namespace Effect

/-! ## Shifted paths -/

@[simp] theorem shiftPath_root (parent : ElementPath) (removed : Nat) :
    shiftPath parent removed [] = [] := by
  cases parent <;> rfl

@[simp] theorem shiftPath_of_root (removed index : Nat) (rest : ElementPath) :
    shiftPath [] removed (index :: rest) = shiftIndex removed index :: rest := rfl

@[simp] theorem shiftPath_cons (first removed index : Nat) (parent rest : ElementPath) :
    shiftPath (first :: parent) removed (index :: rest) =
      if first = index then index :: shiftPath parent removed rest else index :: rest := by
  by_cases heq : first = index
  · subst heq
    simp only [shiftPath, ElementPath.isPrefixOf?_cons_cons, BEq.rfl, if_true]
    rcases parent.isPrefixOf? rest with _ | _ | ⟨_, _⟩ <;> rfl
  · simp [shiftPath, ElementPath.isPrefixOf?_cons_cons, heq]

@[simp] theorem shiftPath_self (parent : ElementPath) (removed : Nat) :
    shiftPath parent removed parent = parent := by
  induction parent with
  | nil => rfl
  | cons first parent ih => simp [ih]

def moveIndex (parent target : ElementPath) (removed index : Nat) : Nat :=
  if target = parent then shiftIndex removed index else index

theorem moveTarget_child (parent target : ElementPath) (removed index : Nat) :
    moveTarget (parent.child removed) target index =
      (shiftPath parent removed target, moveIndex parent target removed index) := by
  rw [moveTarget, ElementPath.splitLast?_child, moveIndex]
  by_cases heq : target = parent <;> simp [heq]

end Effect

namespace Element

open Effect (shiftIndex shiftPath shiftPath_of_root shiftPath_cons)

/-! ## One child less -/

@[simp] theorem children_eraseChild (element : Element) (index : Nat) :
    (element.eraseChild index).children = element.children.eraseIdx index := by
  cases element <;> rfl

@[simp] theorem isContainer_eraseChild (element : Element) (index : Nat) :
    (element.eraseChild index).isContainer = element.isContainer := by
  rw [isContainer, eraseChild, withChildren, Shape.shape_element, isContainer_shape]

@[simp] theorem eraseAt_root (element : Element) : element.eraseAt [] = element := rfl

theorem eraseAt_child (element : Element) (parent : ElementPath) (index : Nat) :
    element.eraseAt (parent.child index) = element.modifyAt (·.eraseChild index) parent := by
  rw [eraseAt, ElementPath.splitLast?_child]

@[simp] theorem children_eraseAt_single (element : Element) (index : Nat) :
    (element.eraseAt [index]).children = element.children.eraseIdx index :=
  children_eraseChild element index

@[simp] theorem children_eraseAt_cons (element : Element) (first index : Nat)
    (parent : ElementPath) :
    (element.eraseAt (first :: parent.child index)).children =
      element.children.modify first (eraseAt (parent.child index)) := by
  rw [← ElementPath.child_cons, eraseAt_child, children_modifyAt_cons]
  congr
  funext child
  rw [eraseAt_child]

@[simp] theorem shape_eraseAt (element : Element) (path : ElementPath) :
    (element.eraseAt path).shape = element.shape := by
  rw [eraseAt]
  split
  · rfl
  · next parent index _ =>
      cases parent with
      | nil => exact Shape.shape_element ..
      | cons first parent => exact shape_modifyAt_cons ..

/-! ## Elements that lose a descendant -/

/-- The element at `place`, once the element at `source` has been taken out of its tree. -/
def clearedOf (place source : ElementPath) (element : Element) : Element :=
  match place.isPrefixOf? source with
  | some rest => element.eraseAt rest
  | none => element

@[simp] theorem clearedOf_root (element : Element) (source : ElementPath) :
    element.clearedOf [] source = element.eraseAt source := by
  cases source <;> rfl

@[simp] theorem clearedOf_cons (element : Element) (index first : Nat) (place rest : ElementPath) :
    element.clearedOf (index :: place) (first :: rest) =
      if index = first then element.clearedOf place rest else element := by
  by_cases heq : index = first <;> simp [clearedOf, ElementPath.isPrefixOf?_cons_cons, heq]

@[simp] theorem shape_clearedOf (element : Element) (place source : ElementPath) :
    (element.clearedOf place source).shape = element.shape := by
  rw [clearedOf]
  split
  · exact shape_eraseAt ..
  · rfl

@[simp] theorem isContainer_clearedOf (element : Element) (place source : ElementPath) :
    (element.clearedOf place source).isContainer = element.isContainer := by
  rw [isContainer, shape_clearedOf, isContainer]

variable {parent path : ElementPath} {position : Nat}

private theorem getElem?_eraseIdx_shiftIndex {α : Type} (items : List α) {index : Nat}
    (h : index ≠ position) :
    (items.eraseIdx position)[shiftIndex position index]? = items[index]? := by
  rw [List.getElem?_eraseIdx, shiftIndex]
  grind

private theorem eraseIdx_modify {α : Type} (items : List α) (change : α → α) {index : Nat}
    (h : index ≠ position) :
    (items.modify index change).eraseIdx position =
      (items.eraseIdx position).modify (shiftIndex position index) change := by
  apply List.ext_getElem?
  intro i
  simp only [List.getElem?_eraseIdx, List.getElem?_modify, shiftIndex]
  grind

theorem find?_eraseAt (tree : Element) (h : ¬ parent.child position <+: path) :
    (tree.eraseAt (parent.child position)).find? (shiftPath parent position path) =
      (tree.find? path).map (·.clearedOf path (parent.child position)) := by
  -- Along both paths, as far as they agree; the shift happens below `parent` only.
  induction parent generalizing tree path with
  | nil =>
      cases path with
      | nil => simp
      | cons index rest =>
          have hne : index ≠ position := by
            rintro rfl
            exact h (List.prefix_append [index] rest)
          simp [find?_cons, getElem?_eraseIdx_shiftIndex _ hne, hne]
  | cons first parent ih =>
      cases path with
      | nil => simp
      | cons index rest =>
          rw [ElementPath.child_cons] at h ⊢
          by_cases heq : first = index
          · subst heq
            have hrest : ¬ ElementPath.child parent position <+: rest := by
              simpa [List.cons_prefix_cons] using h
            simp only [shiftPath_cons, if_true, clearedOf_cons, find?_cons, children_eraseAt_cons,
              List.getElem?_modify_eq, Option.map_eq_map, Option.bind_map, Option.map_bind,
              Function.comp_def, ih _ hrest]
          · simp [find?_cons, heq, Ne.symm heq]

/-! ## Children put in -/

private theorem eraseChild_insertChild {element : Element} (child : Element) (index : Nat)
    (h : element.isContainer = true) :
    (element.insertChild index child).eraseChild (min index element.children.length) =
      element := by
  apply eq_of_shape_of_children
  · simp [eraseChild, insertChild, withChildren]
  · rw [children_eraseChild, insertChild, children_withChildren h, ← List.length_take,
      List.eraseIdx_append_of_length_le (Nat.le_refl _), Nat.sub_self, List.eraseIdx_zero,
      List.tail_cons, List.take_append_drop]

private theorem insertChild_eraseChild {element child : Element} {index : Nat}
    (h : element.children[index]? = some child) :
    (element.eraseChild index).insertChild index child = element := by
  obtain ⟨hindex, hchild⟩ := List.getElem?_eq_some_iff.mp h
  have hcontainer : (element.eraseChild index).isContainer = true := by
    rw [isContainer_eraseChild, isContainer_of_child h]
  have htake : (element.children.take index).length = index :=
    List.length_take_of_le (Nat.le_of_lt hindex)
  apply eq_of_shape_of_children
  · simp [insertChild, eraseChild, withChildren]
  · rw [insertChild, children_withChildren hcontainer, children_eraseChild,
      List.eraseIdx_eq_take_drop_succ, List.take_left' htake, List.drop_left' htake, ← hchild,
      ← List.drop_eq_getElem_cons hindex, List.take_append_drop]

variable {tree target : Element}

theorem find?_modifyAt_insertChild (child : Element) (index : Nat)
    (hfound : tree.find? path = some target) (hcontainer : target.isContainer = true) :
    (tree.modifyAt (·.insertChild index child) path).find?
      (path.child (min index target.children.length)) = some child := by
  rw [find?_child, find?_modifyAt _ hfound, Option.bind_some, insertChild,
    children_withChildren hcontainer, ← List.length_take]
  simp

theorem eraseAt_modifyAt_insertChild (child : Element) (index : Nat)
    (hfound : tree.find? path = some target) (hcontainer : target.isContainer = true) :
    (tree.modifyAt (·.insertChild index child) path).eraseAt
      (path.child (min index target.children.length)) = tree := by
  rw [eraseAt_child, modifyAt_modifyAt]
  exact modifyAt_eq_self hfound (eraseChild_insertChild child index hcontainer)

theorem modifyAt_insertChild_eraseAt {removed : Element} {index : Nat}
    (h : tree.find? (path.child index) = some removed) :
    (tree.eraseAt (path.child index)).modifyAt (·.insertChild index removed) path = tree := by
  rw [find?_child] at h
  obtain ⟨target, hfound, hchild⟩ := Option.bind_eq_some_iff.mp h
  rw [eraseAt_child, modifyAt_modifyAt]
  exact modifyAt_eq_self hfound (insertChild_eraseChild hchild)

/-! ## Another kind of container -/

def relabel (kind : Container) (element : Element) : Element := .container kind element.children

@[simp] theorem children_relabel (kind : Container) (element : Element) :
    (element.relabel kind).children = element.children := rfl

theorem find?_modifyAt_relabel (kind : Container) {target source : ElementPath} (tree : Element)
    (h : ¬ source <+: target) :
    (tree.modifyAt (relabel kind) target).find? source = tree.find? source := by
  induction target generalizing tree source with
  | nil =>
      cases source with
      | nil => simp at h
      | cons index rest => rfl
  | cons first target ih =>
      cases source with
      | nil => simp at h
      | cons index rest =>
          rw [find?_cons, children_modifyAt_cons]
          by_cases heq : first = index
          · subst heq
            have hrest : ¬ rest <+: target := by simpa [List.cons_prefix_cons] using h
            simp only [List.getElem?_modify_eq, Option.map_eq_map, Option.bind_map, find?_cons,
              Function.comp_def, ih _ hrest]
          · simp [find?_cons, heq]

@[simp] theorem shape_relabel (kind : Container) (element : Element) :
    (element.relabel kind).shape = .container kind := rfl

private theorem relabel_eraseAt (kind : Container) (element : Element) :
    (element.eraseAt (parent.child position)).relabel kind =
      (element.relabel kind).eraseAt (parent.child position) := by
  apply eq_of_shape_of_children
  · simp
  · cases parent <;> simp

theorem modifyAt_relabel_eraseAt (kind : Container) (tree : Element)
    (h : ¬ parent.child position <+: path) :
    (tree.modifyAt (relabel kind) path).eraseAt (parent.child position) =
      (tree.eraseAt (parent.child position)).modifyAt (relabel kind)
        (shiftPath parent position path) := by
  induction parent generalizing tree path with
  | nil =>
      cases path with
      | nil => exact (relabel_eraseAt kind tree).symm
      | cons index rest =>
          have hne : index ≠ position := by
            rintro rfl
            exact h (List.prefix_append [index] rest)
          apply eq_of_shape_of_children
          · simp
          · simp [eraseIdx_modify _ _ hne]
  | cons first parent ih =>
      cases path with
      | nil => exact (relabel_eraseAt kind tree).symm
      | cons index rest =>
          apply eq_of_shape_of_children
          · rw [shiftPath_cons]
            split <;> simp
          · rw [ElementPath.child_cons] at h ⊢
            by_cases heq : first = index
            · subst heq
              have hrest : ¬ ElementPath.child parent position <+: rest := by
                simpa [List.cons_prefix_cons] using h
              simp only [children_eraseAt_cons, children_modifyAt_cons, shiftPath_cons, if_true,
                List.modify_modify_eq]
              congr 1
              funext child
              exact ih child hrest
            · simp [heq, List.modify_modify_ne _ _ _ heq]

theorem modifyAt_relabel_insertChild (kind : Container) (child : Element) (index : Nat)
    (hfound : tree.find? path = some target) (hcontainer : target.isContainer = true) :
    (tree.modifyAt (relabel kind) path).modifyAt (·.insertChild index child) path =
      (tree.modifyAt (·.insertChild index child) path).modifyAt (relabel kind) path := by
  rw [modifyAt_modifyAt, modifyAt_modifyAt]
  refine modifyAt_congr hfound (congrArg (Element.container kind) ?_)
  exact (children_withChildren hcontainer).symm

end Element

end DocTemplate

import DocTemplate.Template.Path

/-!
# Positions in a tree

Changing the element that a path leads to, and the children of an element by position.  Off the
path a tree stays as it is.
-/

namespace DocTemplate

namespace Shape

@[simp] theorem shape_element (shape : Shape) (children : List Element) :
    (shape.element children).shape = shape := by
  cases shape <;> rfl

theorem children_element {shape : Shape} {children : List Element}
    (h : shape.isContainer = false → children = []) :
    (shape.element children).children = children := by
  cases shape with
  | container kind => rfl
  | leaf kind => rw [h rfl]; rfl

end Shape

namespace Element

@[simp] theorem isContainer_shape (element : Element) :
    element.shape.isContainer = element.isContainer := rfl

/-! ## Children -/

@[elab_as_elim]
theorem inductionOnChildren {motive : Element → Prop}
    (step : ∀ element, (∀ child ∈ element.children, motive child) → motive element) :
    (element : Element) → motive element
  | .leaf kind => step (.leaf kind) fun _ hchild => nomatch hchild
  | .container kind children =>
      step (.container kind children) fun child _ => inductionOnChildren step child
termination_by element => sizeOf element
decreasing_by
  have hlt : sizeOf child < sizeOf children := List.sizeOf_lt_of_mem ‹_›
  rw [container.sizeOf_spec]
  omega

def withChildren (element : Element) (children : List Element) : Element :=
  element.shape.element children

def insertChild (element : Element) (index : Nat) (child : Element) : Element :=
  element.withChildren (element.children.take index ++ child :: element.children.drop index)

def eraseChild (element : Element) (index : Nat) : Element :=
  element.withChildren (element.children.eraseIdx index)

theorem children_withChildren {element : Element} {children : List Element}
    (h : element.isContainer = true) : (element.withChildren children).children = children := by
  apply Shape.children_element
  intro hleaf
  rw [isContainer_shape, h] at hleaf
  contradiction

theorem isContainer_of_child {element child : Element} {index : Nat}
    (h : element.children[index]? = some child) : element.isContainer = true := by
  cases element with
  | container kind children => rfl
  | leaf kind => simp [children] at h

theorem eq_of_shape_of_children {first second : Element} (hshape : first.shape = second.shape)
    (hchildren : first.children = second.children) : first = second := by
  rw [← element_shape_children first, hshape, hchildren, element_shape_children]

/-! ## Elements at a path -/

def modifyAt (change : Element → Element) : ElementPath → Element → Element
  | [], element => change element
  | index :: rest, element =>
      element.withChildren (element.children.modify index (modifyAt change rest))

/-- The tree without the element at a path; a root cannot be taken out of its tree. -/
def eraseAt (path : ElementPath) (element : Element) : Element :=
  match path.splitLast? with
  | none => element
  | some (parent, index) => element.modifyAt (·.eraseChild index) parent

def childCountAt (element : Element) (path : ElementPath) : Nat :=
  ((element.find? path).map fun found => found.children.length).getD 0

@[simp] theorem find?_root (element : Element) : element.find? [] = some element := rfl

theorem find?_cons (element : Element) (index : Nat) (rest : ElementPath) :
    element.find? (index :: rest) = (element.children[index]?).bind (·.find? rest) := rfl

theorem find?_append (element : Element) (path rest : ElementPath) :
    element.find? (path ++ rest) = (element.find? path).bind (·.find? rest) := by
  induction path generalizing element with
  | nil => rfl
  | cons index path ih =>
      simp only [List.cons_append, find?_cons, Option.bind_assoc]
      exact Option.bind_congr fun child _ => ih child

theorem find?_child (element : Element) (path : ElementPath) (index : Nat) :
    element.find? (path.child index) = (element.find? path).bind (·.children[index]?) := by
  rw [ElementPath.child, find?_append]
  exact Option.bind_congr fun parent _ => by simp [find?_cons]

theorem lt_length_of_find?_child {element parent child : Element} {path : ElementPath}
    {index : Nat} (hparent : element.find? path = some parent)
    (hchild : element.find? (path.child index) = some child) : index < parent.children.length := by
  rw [find?_child, hparent, Option.bind_some] at hchild
  exact (List.getElem?_eq_some_iff.mp hchild).1

theorem childCountAt_of_find? {element found : Element} {path : ElementPath}
    (h : element.find? path = some found) :
    element.childCountAt path = found.children.length := by
  rw [childCountAt, h, Option.map_some, Option.getD_some]

theorem find?_modifyAt_append {element target : Element} {path : ElementPath}
    (change : Element → Element) (rest : ElementPath) (h : element.find? path = some target) :
    (element.modifyAt change path).find? (path ++ rest) = (change target).find? rest := by
  induction path generalizing element with
  | nil =>
      cases h
      rfl
  | cons index path ih =>
      obtain ⟨child, hchild, hfound⟩ := Option.bind_eq_some_iff.mp (find?_cons .. ▸ h)
      rw [List.cons_append, modifyAt, find?_cons,
        children_withChildren (isContainer_of_child hchild)]
      simpa [List.getElem?_modify, hchild] using ih hfound

theorem find?_modifyAt {element target : Element} {path : ElementPath}
    (change : Element → Element) (h : element.find? path = some target) :
    (element.modifyAt change path).find? path = some (change target) := by
  simpa using find?_modifyAt_append change [] h

@[simp] theorem children_modifyAt_cons (element : Element) (change : Element → Element)
    (index : Nat) (rest : ElementPath) :
    (element.modifyAt change (index :: rest)).children =
      element.children.modify index (modifyAt change rest) := by
  cases element <;> simp [modifyAt, withChildren, children, shape, Shape.element]

@[simp] theorem shape_modifyAt_cons (element : Element) (change : Element → Element)
    (index : Nat) (rest : ElementPath) :
    (element.modifyAt change (index :: rest)).shape = element.shape :=
  Shape.shape_element ..

theorem modifyAt_modifyAt (element : Element) (first second : Element → Element)
    (path : ElementPath) :
    (element.modifyAt first path).modifyAt second path =
      element.modifyAt (second ∘ first) path := by
  induction path generalizing element with
  | nil => rfl
  | cons index path ih =>
      apply eq_of_shape_of_children
      · simp
      · simp only [children_modifyAt_cons, List.modify_modify_eq]
        congr 1
        exact funext ih

theorem modifyAt_congr {element target : Element} {path : ElementPath}
    {change change' : Element → Element} (h : element.find? path = some target)
    (hchange : change target = change' target) :
    element.modifyAt change path = element.modifyAt change' path := by
  induction path generalizing element with
  | nil =>
      cases h
      exact hchange
  | cons index path ih =>
      obtain ⟨child, hchild, hfound⟩ := Option.bind_eq_some_iff.mp (find?_cons .. ▸ h)
      rw [modifyAt, modifyAt]
      congr 1
      rw [List.modify_eq_set, List.modify_eq_set, hchild]
      simp [ih hfound]

theorem modifyAt_eq_self {element target : Element} {path : ElementPath}
    {change : Element → Element} (h : element.find? path = some target)
    (hchange : change target = target) : element.modifyAt change path = element := by
  induction path generalizing element with
  | nil =>
      cases h
      exact hchange
  | cons index path ih =>
      obtain ⟨child, hchild, hfound⟩ := Option.bind_eq_some_iff.mp (find?_cons .. ▸ h)
      apply eq_of_shape_of_children
      · simp
      · rw [children_modifyAt_cons]
        apply List.ext_getElem?
        intro i
        rw [List.getElem?_modify]
        split
        · next heq => simp [← heq, hchild, ih hfound]
        · simp

end Element

/-! ## Last steps of paths -/

theorem ElementPath.splitLast?_eq_none_iff {path : ElementPath} :
    path.splitLast? = none ↔ path = [] := by
  induction path with
  | nil => simp [splitLast?]
  | cons head rest ih =>
      cases rest with
      | nil => simp [splitLast?]
      | cons next rest => simpa [splitLast?] using ih

theorem ElementPath.eq_child_of_splitLast? {path parent : ElementPath} {index : Nat}
    (h : path.splitLast? = some (parent, index)) : path = parent.child index := by
  induction path generalizing parent with
  | nil => simp [splitLast?] at h
  | cons head rest ih =>
      cases rest with
      | nil =>
          cases h
          rfl
      | cons next rest =>
          simp only [splitLast?, Option.map_eq_some_iff, Prod.exists, Prod.mk.injEq] at h
          obtain ⟨parent', index', hsplit, rfl, rfl⟩ := h
          rw [ih hsplit]
          rfl

theorem ElementPath.exists_eq_child {path : ElementPath} (h : path ≠ []) :
    ∃ parent index, path = ElementPath.child parent index := by
  cases hsplit : path.splitLast? with
  | none => exact absurd (splitLast?_eq_none_iff.mp hsplit) h
  | some last => exact ⟨last.1, last.2, eq_child_of_splitLast? hsplit⟩

@[simp] theorem ElementPath.child_ne_root (parent : ElementPath) (index : Nat) :
    child parent index ≠ [] :=
  List.append_ne_nil_of_right_ne_nil _ (List.cons_ne_nil _ _)

theorem ElementPath.child_inj {first second : ElementPath} {i j : Nat} :
    first.child i = second.child j ↔ first = second ∧ i = j := by
  constructor
  · intro h
    obtain ⟨hparent, hindex⟩ := List.append_inj' h rfl
    exact ⟨hparent, List.head_eq_of_cons_eq hindex⟩
  · rintro ⟨rfl, rfl⟩
    rfl

@[simp] theorem ElementPath.child_root (index : Nat) : child [] index = [index] := rfl

@[simp] theorem ElementPath.child_cons (head : Nat) (rest : ElementPath) (index : Nat) :
    child (head :: rest) index = head :: rest.child index := rfl

@[simp] theorem ElementPath.splitLast?_child (parent : ElementPath) (index : Nat) :
    (parent.child index).splitLast? = some (parent, index) := by
  induction parent with
  | nil => rfl
  | cons head rest ih =>
      cases rest with
      | nil => rfl
      | cons next rest => simpa [child, splitLast?] using ih

end DocTemplate

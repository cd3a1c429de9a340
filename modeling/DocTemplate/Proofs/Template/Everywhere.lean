import DocTemplate.Proofs.Template.Position

/-!
# Properties of all elements of a tree

A property of shapes that holds of all elements of a tree holds of the elements below any of them,
and it is kept by a change of one element as long as what comes in has it.
-/

namespace DocTemplate.Element

inductive All (p : Shape → Prop) : Element → Prop where
  | intro {element : Element} (shape : p element.shape)
      (children : ∀ child ∈ element.children, All p child) : All p element

variable {p : Shape → Prop} {element : Element}

theorem All.shape (h : element.All p) : p element.shape := by
  cases h
  assumption

theorem All.children (h : element.All p) : ∀ child ∈ element.children, child.All p := by
  cases h
  assumption

theorem All.find? {sub : Element} {path : ElementPath} (h : element.All p)
    (hfind : element.find? path = some sub) : sub.All p := by
  induction path generalizing element with
  | nil =>
      cases hfind
      exact h
  | cons index path ih =>
      obtain ⟨child, hchild, hfound⟩ := Option.bind_eq_some_iff.mp (find?_cons .. ▸ hfind)
      exact ih (h.children child (List.mem_of_getElem? hchild)) hfound

/-! ## Changes of the tree -/

theorem all_element {shape : Shape} {children : List Element} (hshape : p shape)
    (hchildren : ∀ child ∈ children, child.All p) : (shape.element children).All p := by
  cases shape with
  | container kind => exact .intro hshape hchildren
  | leaf kind => exact .intro hshape fun _ hchild => nomatch hchild

theorem All.withChildren {children : List Element} (h : element.All p)
    (hchildren : ∀ child ∈ children, child.All p) : (element.withChildren children).All p :=
  all_element h.shape hchildren

theorem All.insertChild {child : Element} (h : element.All p) (index : Nat) (hchild : child.All p) :
    (element.insertChild index child).All p := by
  refine h.withChildren fun other hother => ?_
  rcases List.mem_append.mp hother with hother | hother
  · exact h.children other (List.mem_of_mem_take hother)
  · rcases List.mem_cons.mp hother with rfl | hother
    · exact hchild
    · exact h.children other (List.mem_of_mem_drop hother)

private theorem All.eraseChild (h : element.All p) (index : Nat) :
    (element.eraseChild index).All p :=
  h.withChildren fun other hother => h.children other (List.mem_of_mem_eraseIdx hother)

theorem All.modifyAt {change : Element → Element} {path : ElementPath} (h : element.All p)
    (hchange : ∀ target, element.find? path = some target → target.All p → (change target).All p) :
    (element.modifyAt change path).All p := by
  induction path generalizing element with
  | nil => exact hchange element rfl h
  | cons index path ih =>
      refine h.withChildren fun other hother => ?_
      obtain ⟨position, hposition⟩ := List.getElem?_of_mem hother
      rw [List.getElem?_modify] at hposition
      obtain ⟨child, hchild, rfl⟩ := Option.map_eq_some_iff.mp hposition
      have hall := h.children child (List.mem_of_getElem? hchild)
      split
      · next heq =>
          subst heq
          refine ih hall fun target htarget => hchange target ?_
          rw [find?_cons, hchild]
          exact htarget
      · exact hall

theorem All.eraseAt (h : element.All p) (path : ElementPath) : (element.eraseAt path).All p := by
  rw [Element.eraseAt]
  split
  · exact h
  · next parent index _ => exact h.modifyAt fun target _ htarget => htarget.eraseChild index

end DocTemplate.Element

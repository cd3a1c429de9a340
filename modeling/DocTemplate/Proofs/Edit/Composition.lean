import DocTemplate.Proofs.Edit.Outcome
import DocTemplate.Proofs.Edit.Overlaid

/-!
# Updates in a row

An update changes the fields of one element and nothing else in the tree.  The empty patch changes
nothing at all, and two updates of one element come to the same as one.
-/

namespace DocTemplate

/-! ## Updates -/

namespace Element

private theorem tag?_shape (element : Element) : element.shape.tag? = element.tag? := by
  cases element <;> rfl

theorem shape_find?_modifyAt {tree target : Element} {change : Element → Element}
    {path other : ElementPath} (hfound : tree.find? path = some target)
    (hchildren : (change target).children = target.children) (hother : other ≠ path) :
    ((tree.modifyAt change path).find? other).map shape = (tree.find? other).map shape := by
  induction path generalizing tree other with
  | nil =>
      cases hfound
      cases other with
      | nil => contradiction
      | cons index rest => rw [modifyAt, find?_cons, find?_cons, hchildren]
  | cons index path ih =>
      obtain ⟨child, hchild, hbelow⟩ := Option.bind_eq_some_iff.mp (find?_cons .. ▸ hfound)
      cases other with
      | nil => simp
      | cons first rest =>
          rw [find?_cons, find?_cons, children_modifyAt_cons, List.getElem?_modify]
          by_cases heq : index = first
          · subst heq
            have hrest : rest ≠ path := fun hsame => hother (hsame ▸ rfl)
            simpa [hchild] using ih hbelow hrest
          · simp [heq]

end Element

namespace Edit

variable {path : ElementPath} {tree target after : Element} {patch first second : Object}

theorem children_of_patchedShape? {shape : Shape} (hpatch : Effect.protectedField? patch = none)
    (h : Effect.patchedShape? target.shape patch = some shape) :
    (shape.element target.children).children = target.children := by
  refine Shape.children_element fun hleaf => ?_
  cases target with
  | leaf kind => rfl
  | container kind children =>
      rw [Effect.isContainer_of_patchedShape? hpatch rfl h] at hleaf
      cases hleaf

theorem updateIn_of_find? (hpatch : Effect.protectedField? patch = none)
    (hfound : tree.find? path = some target) :
    updateIn path patch tree =
      match Effect.patchedShape? target.shape patch with
      | none => .error (.invalidPatch path)
      | some shape => .ok (tree.modifyAt (fun element => shape.element element.children) path) := by
  cases hshape : Effect.patchedShape? target.shape patch <;>
    simp only [updateIn, hpatch, hfound, hshape]

theorem updateIn_empty (hfound : tree.find? path = some target) (hshape : target.shape.Lossless) :
    updateIn path .empty tree = .ok tree := by
  rw [updateIn_of_find? rfl hfound, Effect.patchedShape?_empty hshape]
  exact congrArg Except.ok (Element.modifyAt_eq_self hfound (Element.element_shape_children target))

theorem updateIn_updateIn (hfound : tree.find? path = some target)
    (hshape : target.shape.Lossless) (hfinite : Json.FiniteFields first.fields)
    (hsecond : Effect.protectedField? second = none)
    (h : updateIn path first tree = .ok after) :
    updateIn path second after = updateIn path (.overlay first.fields second) tree := by
  obtain ⟨hfirst, found, shape, hfound', hpatched, rfl⟩ := updateIn_eq_ok h
  obtain rfl : found = target := Option.some.inj (hfound'.symm.trans hfound)
  have hchildren := children_of_patchedShape? hfirst hpatched
  have hafter := Element.find?_modifyAt (fun element => shape.element element.children) hfound
  rw [updateIn_of_find? hsecond hafter, Shape.shape_element,
    updateIn_of_find? (Effect.protectedField?_overlay hfirst hsecond) hfound,
    Effect.patchedShape?_overlay hshape hfinite hfirst hsecond hpatched]
  cases Effect.patchedShape? shape second with
  | none => rfl
  | some last =>
      refine congrArg Except.ok ?_
      rw [Element.modifyAt_modifyAt]
      exact Element.modifyAt_congr hfound (congrArg last.element hchildren)

structure UpdateKeeps (path : ElementPath) (tree after : Element) : Prop where
  element : ∃ target patched, tree.find? path = some target ∧ after.find? path = some patched ∧
    patched.tag? = target.tag? ∧ patched.shape.statedType = target.shape.statedType ∧
    patched.children = target.children
  others : ∀ other, other ≠ path →
    (after.find? other).map Element.shape = (tree.find? other).map Element.shape

theorem updateKeeps_of_ok (hlossless : tree.Lossless) (h : updateIn path patch tree = .ok after) :
    UpdateKeeps path tree after := by
  obtain ⟨hpatch, target, shape, hfound, hpatched, rfl⟩ := updateIn_eq_ok h
  have hshape := (hlossless.find? hfound).shape
  have hchildren := children_of_patchedShape? hpatch hpatched
  constructor
  · refine ⟨target, _, hfound, Element.find?_modifyAt _ hfound, ?_, ?_, hchildren⟩
    · rw [← Element.tag?_shape, Shape.shape_element,
        Effect.tag?_patchedShape? hpatch hshape hpatched, Element.tag?_shape]
    · rw [Shape.shape_element, Effect.statedType_patchedShape? hpatch hshape hpatched]
  · exact fun other hother => Element.shape_find?_modifyAt hfound hchildren hother

/-- The empty patch changes nothing, patches in a row are one patch, and an update keeps everything
but the fields of the element it is about. -/
theorem patches_compose {value : Json} (hvalue : value.Fits)
    (hread : Element.ofJson? value = some tree) (hpath : tree.find? path = some target)
    (hfits : first.toJson.Fits)
    (hfirst : first.get? "type" = none ∧ first.get? "children" = none)
    (hsecond : second.get? "type" = none ∧ second.get? "children" = none) :
    (updateElement path .empty).Leads tree tree path ∧
    (∀ between, (updateElement path first).Leads tree between path →
      (updateElement path first).Leads between between path ∧
      ∀ after, (updateElement path second).Leads between after path ↔
        (updateElement path (.overlay first.fields second)).Leads tree after path) ∧
    ∀ patch after, (updateElement path patch).Leads tree after path →
      UpdateKeeps path tree after := by
  have hlossless := Element.lossless_of_ofJson? hvalue hread
  have hshape := (hlossless.find? hpath).shape
  have hfinite : Json.FiniteFields first.fields := Json.Fits.finiteFields hfits
  rw [← Effect.protectedField?_eq_none_iff] at hfirst hsecond
  refine ⟨leads_iff.mpr ⟨updateIn_empty hpath hshape, rfl⟩, ?_, ?_⟩
  · intro between hbetween
    have hok := (leads_iff.mp hbetween).1
    constructor
    · have hagain := updateIn_updateIn hpath hshape hfinite hfirst hok
      rw [Object.overlay_self] at hagain
      exact leads_iff.mpr ⟨hagain.trans hok, rfl⟩
    · intro after
      rw [leads_iff, leads_iff]
      have htwice := updateIn_updateIn hpath hshape hfinite hsecond hok
      simp only [onTree, placeIn, htwice]
  · exact fun patch after hleads => updateKeeps_of_ok hlossless (leads_iff.mp hleads).1

/-- A text is bound, by a list of values without names, and then loses its content, in two steps or
in one. -/
theorem patches_compose_text :
    let value : Json := .object [("children", .list [.object [("content", .text "Draft"),
      ("type", .text "Text")]]), ("type", .text "Frame")]
    let first : Object := .ofFields [("binding", .list [.text "client.name", .null, .text "-"]),
      ("content", .text "Final")]
    let second : Object := .ofFields [("content", .null)]
    let bound : DataBinding := ⟨"client.name", none, some "-"⟩
    let page (content : Option String) (binding : Option DataBinding) : Element :=
      .container (.frame .none none) [.leaf (.text .none content binding)]
    Element.ofJson? value = some (page (some "Draft") none) ∧
      (updateElement [0] first).Leads (page (some "Draft") none)
        (page (some "Final") (some bound)) [0] ∧
      (updateElement [0] second).Leads (page (some "Final") (some bound))
        (page none (some bound)) [0] ∧
      (updateElement [0] (.overlay first.fields second)).Leads (page (some "Draft") none)
        (page none (some bound)) [0] ∧
      UpdateKeeps [0] (page (some "Draft") none) (page none (some bound)) := by
  intro value first second bound page
  have hvalue : value.Fits := by simp [value]
  have hread : Element.ofJson? value = some (page (some "Draft") none) := by rfl
  have hfits : first.toJson.Fits := by
    change (Json.object [("binding", .list [.text "client.name", .null, .text "-"]),
      ("content", .text "Final")]).Fits
    simp
  have hfirst : (updateElement [0] first).Leads (page (some "Draft") none)
      (page (some "Final") (some bound)) [0] := leads_iff.mpr ⟨by rfl, rfl⟩
  have hsecond : (updateElement [0] second).Leads (page (some "Final") (some bound))
      (page none (some bound)) [0] := leads_iff.mpr ⟨by rfl, rfl⟩
  have hfound : (page (some "Draft") none).find? [0] =
      some (.leaf (.text .none (some "Draft") none)) := rfl
  have hopen : first.get? "type" = none ∧ first.get? "children" = none := ⟨by rfl, by rfl⟩
  have hopen' : second.get? "type" = none ∧ second.get? "children" = none := ⟨by rfl, by rfl⟩
  obtain ⟨-, htwice, hkeeps⟩ := patches_compose hvalue hread hfound hfits hopen hopen'
  have honce := ((htwice _ hfirst).2 _).mp hsecond
  exact ⟨hread, hfirst, hsecond, honce, hkeeps _ _ honce⟩

end Edit

end DocTemplate

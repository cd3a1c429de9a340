import DocTemplate.Proofs.Edit.Removal
import DocTemplate.Proofs.Session.Run

/-!
# Insertions and removals

An element that is put into a container is found at the place that the edit names, and the removal
of what stands there leads back to the document from before.  So does putting a removed element in
again where it stood.
-/

namespace DocTemplate.Session

/-- The second edit takes back the first one: both are made and name the same place, and in the end
the document is the one from before. -/
structure TakenBack (session : Session) (first second : Edit) (place : ElementPath)
    (between : Session) : Prop where
  made : session.apply first = (.ok ⟨session.version + 1, place⟩, between)
  takenBack : ∃ after, between.apply second = (.ok ⟨session.version + 2, place⟩, after) ∧
    after.document = session.document

variable {session : Session} {parent : ElementPath} {target removed : Element}

/-! ## Edits of the template -/

private theorem apply_of_onTree {edit : Edit} {tree : Element} (h : session.history.WellFormed)
    (hstructural : edit.isStructural = true) (hedit : edit.onTree session.template = .ok tree) :
    ∃ after, session.apply edit =
        (.ok ⟨session.version + 1, edit.placeIn session.template⟩, after) ∧
      session.Records ⟨tree, session.tokens⟩ edit.label after := by
  rw [← Edit.tokensOver_of_isStructural hstructural session.tokens]
  exact apply_of_ok h (Edit.onDocument_of_ok hedit)

theorem exists_takenBack {tree : Element} (first second : Edit)
    (h : session.history.WellFormed) (hfirst : first.isStructural = true)
    (hsecond : second.isStructural = true)
    (hthere : first.onTree session.template = .ok tree)
    (hback : second.onTree tree = .ok session.template)
    (hplace : second.placeIn tree = first.placeIn session.template) :
    ∃ between, session.TakenBack first second (first.placeIn session.template) between ∧
      between.template = tree := by
  obtain ⟨between, hmade, hbetween⟩ := apply_of_onTree h hfirst hthere
  have htemplate : between.template = tree := congrArg Document.template hbetween.document_eq
  have htokens : between.tokens = session.tokens := congrArg Document.tokens hbetween.document_eq
  rw [← htemplate] at hback hplace
  obtain ⟨after, htaken, hafter⟩ := apply_of_onTree hbetween.wellFormed hsecond hback
  rw [hplace, hbetween.version] at htaken
  refine ⟨between, ⟨hmade, after, htaken, ?_⟩, htemplate⟩
  rw [hafter.document_eq, htokens]
  rfl

/-! ## There and back -/

theorem insertion_takenBack (edit : Edit) (index : Nat) (element : Element)
    (h : session.history.WellFormed) (hfound : session.template.find? parent = some target)
    (hcontainer : target.isContainer = true) (hstructural : edit.isStructural = true)
    (hedit : edit.onTree session.template =
      (Edit.insertElement parent index element).onTree session.template)
    (hplace : edit.placeIn session.template =
      parent.child (min index target.children.length)) :
    ∃ between,
      session.TakenBack edit (.removeElement (parent.child (min index target.children.length)))
        (parent.child (min index target.children.length)) between ∧
      between.template.find? (parent.child (min index target.children.length)) = some element := by
  have hput := Element.find?_modifyAt_insertChild element index hfound hcontainer
  have hthere := hedit.trans (Edit.insertIn_of_container index element hfound hcontainer)
  have hback := Edit.removeIn_of_found (ElementPath.child_ne_root _ _) hput
  rw [Element.eraseAt_modifyAt_insertChild element index hfound hcontainer] at hback
  generalize parent.child (min index target.children.length) = place at *
  obtain ⟨between, htaken, htemplate⟩ :=
    exists_takenBack edit (.removeElement place) h hstructural rfl hthere hback hplace.symm
  rw [hplace] at htaken
  exact ⟨between, htaken, htemplate ▸ hput⟩

theorem removal_takenBack {index : Nat} (h : session.history.WellFormed)
    (hfound : session.template.find? (parent.child index) = some removed) :
    ∃ between, session.TakenBack (.removeElement (parent.child index))
      (.insertElement parent index removed) (parent.child index) between := by
  obtain ⟨target, hparent, hchild⟩ :=
    Option.bind_eq_some_iff.mp (Element.find?_child .. ▸ hfound)
  have hleft : (session.template.eraseAt (parent.child index)).find? parent =
      some (target.eraseChild index) := by
    rw [Element.eraseAt_child, Element.find?_modifyAt _ hparent]
  have hcontainer : (target.eraseChild index).isContainer = true := by
    rw [Element.isContainer_eraseChild, Element.isContainer_of_child hchild]
  have hthere := Edit.removeIn_of_found (ElementPath.child_ne_root _ _) hfound
  have hback := Edit.insertIn_of_container index removed hleft hcontainer
  rw [Element.modifyAt_insertChild_eraseAt hfound] at hback
  have hroom : index ≤ (target.eraseChild index).children.length := by
    have hindex := Element.lt_length_of_find?_child hparent hfound
    rw [Element.children_eraseChild, List.length_eraseIdx_of_lt hindex]
    omega
  have hplace : (Edit.insertElement parent index removed).placeIn
      (session.template.eraseAt (parent.child index)) = parent.child index := by
    rw [Edit.placeIn, Element.childCountAt_of_find? hleft, Nat.min_eq_left hroom]
  obtain ⟨between, htaken, -⟩ := exists_takenBack (.removeElement (parent.child index))
    (.insertElement parent index removed) h rfl rfl hthere hback hplace
  exact ⟨between, htaken⟩

/-- A container takes an element at any index, at its end at the latest; the element is found at
the place that is named, and its removal leads back.  A removal is taken back by putting the element
in again where it stood.  Where there is no such element or no container, the edit is refused. -/
theorem insert_and_remove_are_inverse (h : session.Reachable) :
    (∀ parent target element, session.template.find? parent = some target →
      target.isContainer = true →
      (∃ between, session.TakenBack (.addElement parent element)
          (.removeElement (parent.child target.children.length))
          (parent.child target.children.length) between ∧
        between.template.find? (parent.child target.children.length) = some element) ∧
      ∀ index, ∃ between, session.TakenBack (.insertElement parent index element)
          (.removeElement (parent.child (min index target.children.length)))
          (parent.child (min index target.children.length)) between ∧
        between.template.find? (parent.child (min index target.children.length)) = some element) ∧
    (∀ parent index removed, session.template.find? (parent.child index) = some removed →
      ∃ between, session.TakenBack (.removeElement (parent.child index))
        (.insertElement parent index removed) (parent.child index) between) ∧
    (∀ parent index element, session.template.find? parent = none →
      session.apply (.addElement parent element) = (.error (.notFound parent), session) ∧
      session.apply (.insertElement parent index element) =
        (.error (.notFound parent), session)) ∧
    (∀ parent index target element, session.template.find? parent = some target →
      target.isContainer = false →
      session.apply (.addElement parent element) = (.error (.notAContainer parent), session) ∧
      session.apply (.insertElement parent index element) =
        (.error (.notAContainer parent), session)) ∧
    ∀ path, session.template.find? path = none →
      session.apply (.removeElement path) = (.error (.notFound path), session) := by
  have hwell := h.wellFormed
  have hrefused {edit : Edit} {error : EditError}
      (hedit : edit.onTree session.template = .error error) :
      session.apply edit = (.error error, session) :=
    apply_of_error hwell (Edit.onDocument_of_error hedit)
  refine ⟨?_, fun parent index removed => removal_takenBack hwell, ?_, ?_, ?_⟩
  · intro parent target element hfound hcontainer
    have hcount := Element.childCountAt_of_find? hfound
    constructor
    · have hadd := insertion_takenBack (.addElement parent element)
        (session.template.childCountAt parent) element hwell hfound hcontainer rfl rfl
      rw [hcount, Nat.min_self] at hadd
      exact hadd (congrArg parent.child hcount)
    · intro index
      have hplace : (Edit.insertElement parent index element).placeIn session.template =
          parent.child (min index target.children.length) := by
        rw [Edit.placeIn, hcount]
      exact insertion_takenBack _ index element hwell hfound hcontainer rfl rfl hplace
  · intro parent index element hmissing
    exact ⟨hrefused (Edit.insertIn_of_missing _ element hmissing),
      hrefused (Edit.insertIn_of_missing index element hmissing)⟩
  · intro parent index target element hfound hleaf
    exact ⟨hrefused (Edit.insertIn_of_leaf _ element hfound hleaf),
      hrefused (Edit.insertIn_of_leaf index element hfound hleaf)⟩
  · intro path hmissing
    exact hrefused (Edit.removeIn_of_missing hmissing)

/-- An index past the end puts an element in at the end, and it can be taken out and put back. -/
theorem insert_and_remove_are_inverse_past_the_end :
    let page := Element.frame [.frame [], .divider]
    let session := start ⟨page, .empty⟩ 0
    page.find? [1] = some .divider ∧
      (∃ between, session.TakenBack (.insertElement [] 7 .divider) (.removeElement [2]) [2] between ∧
        between.template.find? [2] = some .divider) ∧
      (∃ between, session.TakenBack (.removeElement [1]) (.insertElement [] 1 .divider) [1] between) ∧
      session.apply (.addElement [1] .divider) = (.error (.notAContainer [1]), session) := by
  intro page session
  have hpage : session.template = page := congrArg Document.template (document_start _ _)
  have hroot : session.template.find? [] = some page := congrArg some hpage
  have hlast : session.template.find? [1] = some .divider := hpage ▸ rfl
  obtain ⟨hput, hout, -, hleaf, -⟩ :=
    insert_and_remove_are_inverse ⟨⟨page, .empty⟩, 0, [], rfl⟩
  exact ⟨rfl, (hput [] page .divider hroot rfl).2 7, hout [] 1 .divider hlast,
    (hleaf [1] 0 .divider .divider hlast rfl).1⟩

end DocTemplate.Session

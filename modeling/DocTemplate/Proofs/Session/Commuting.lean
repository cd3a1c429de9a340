import DocTemplate.Proofs.Edit.Composition
import DocTemplate.Proofs.Session.Run

/-!
# Edits in either order

An update writes the shape of one element and reads no other, so updates of two elements can change
places, also where one element lies inside the other.  New tokens can change places with every edit
of the template.
-/

namespace DocTemplate

namespace Element

def reshaped (shape : Shape) (element : Element) : Element := shape.element element.children

private theorem reshaped_modifyAt_cons (shape : Shape) (element : Element)
    (change : Element → Element) (index : Nat) (rest : ElementPath) :
    (element.modifyAt change (index :: rest)).reshaped shape =
      (element.reshaped shape).modifyAt change (index :: rest) := by
  rw [reshaped, children_modifyAt_cons]
  cases shape <;> rfl

private theorem modifyAt_reshaped_comm (shape shape' : Shape) {path other : ElementPath}
    (h : path ≠ other) (tree : Element) :
    (tree.modifyAt (reshaped shape) path).modifyAt (reshaped shape') other =
      (tree.modifyAt (reshaped shape') other).modifyAt (reshaped shape) path := by
  -- Along both paths, as far as they agree; one of them may end before the other.
  induction path generalizing tree other with
  | nil =>
      cases other with
      | nil => contradiction
      | cons index rest => exact (reshaped_modifyAt_cons shape tree _ index rest).symm
  | cons head path ih =>
      cases other with
      | nil => exact reshaped_modifyAt_cons shape' tree _ head path
      | cons index rest =>
          apply eq_of_shape_of_children
          · simp
          · simp only [children_modifyAt_cons]
            by_cases heq : head = index
            · subst heq
              have hrest : path ≠ rest := fun hsame => h (hsame ▸ rfl)
              simp only [List.modify_modify_eq]
              congr 1
              funext child
              exact ih hrest child
            · exact List.modify_modify_ne _ _ _ heq

def revisedAt (path : ElementPath) (tree : Element) : Except EditError Shape → Element
  | .error _ => tree
  | .ok shape => tree.modifyAt (reshaped shape) path

private theorem revisedAt_comm {path other : ElementPath} (h : path ≠ other) (tree : Element)
    (revision revision' : Except EditError Shape) :
    (tree.revisedAt path revision).revisedAt other revision' =
      (tree.revisedAt other revision').revisedAt path revision := by
  cases revision with
  | error error => rfl
  | ok shape =>
      cases revision' with
      | error error => rfl
      | ok shape' => exact modifyAt_reshaped_comm shape shape' h tree

end Element

namespace Edit

variable {edit : Edit} {path other : ElementPath} {tree : Element}

/-! ## Answers and results -/

/-- What is said of an edit, with the document it leaves: a refused edit leaves the document as it
was. -/
def outcomeOn (edit : Edit) (document : Document) : Except EditError ElementPath × Document :=
  match edit.onDocument document with
  | .error error => (.error error, document)
  | .ok after => (.ok (edit.placeIn document.template), after)

def answerOn (edit : Edit) (tree : Element) : Except EditError ElementPath :=
  (edit.onTree tree).map fun _ => edit.placeIn tree

def leftBy (edit : Edit) (tree : Element) : Element :=
  match edit.onTree tree with
  | .error _ => tree
  | .ok after => after

theorem outcomeOn_of_isStructural (h : edit.isStructural = true) (document : Document) :
    edit.outcomeOn document =
      (edit.answerOn document.template, ⟨edit.leftBy document.template, document.tokens⟩) := by
  rw [outcomeOn, answerOn, leftBy]
  cases hedit : edit.onTree document.template with
  | error error => rw [onDocument_of_error hedit]; rfl
  | ok after => rw [onDocument_of_ok hedit, tokensOver_of_isStructural h]; rfl

structure CommuteOn (edit edit' : Edit) (document : Document) : Prop where
  answer : (edit.outcomeOn (edit'.outcomeOn document).2).1 = (edit.outcomeOn document).1
  answer' : (edit'.outcomeOn (edit.outcomeOn document).2).1 = (edit'.outcomeOn document).1
  result : (edit'.outcomeOn (edit.outcomeOn document).2).2 =
    (edit.outcomeOn (edit'.outcomeOn document).2).2

/-! ## Updates -/

def revision (path : ElementPath) (patch : Object) (shape : Option Shape) :
    Except EditError Shape :=
  match Effect.protectedField? patch with
  | some field => .error (.protectedField field)
  | none =>
      match shape with
      | none => .error (.notFound path)
      | some shape =>
          match Effect.patchedShape? shape patch with
          | none => .error (.invalidPatch path)
          | some patched => .ok patched

def revisionIn (path : ElementPath) (patch : Object) (tree : Element) : Except EditError Shape :=
  revision path patch ((tree.find? path).map Element.shape)

theorem updateIn_eq (path : ElementPath) (patch : Object) (tree : Element) :
    updateIn path patch tree =
      (revisionIn path patch tree).map fun shape => tree.modifyAt (Element.reshaped shape) path := by
  unfold updateIn revisionIn revision
  cases Effect.protectedField? patch with
  | some field => rfl
  | none =>
      cases tree.find? path with
      | none => rfl
      | some target =>
          simp only [Option.map_some]
          cases Effect.patchedShape? target.shape patch <;> rfl

private theorem answerOn_updateElement (path : ElementPath) (patch : Object) (tree : Element) :
    (updateElement path patch).answerOn tree = (revisionIn path patch tree).map fun _ => path := by
  rw [answerOn, onTree, updateIn_eq]
  cases revisionIn path patch tree <;> rfl

private theorem leftBy_updateElement (path : ElementPath) (patch : Object) (tree : Element) :
    (updateElement path patch).leftBy tree =
      tree.revisedAt path (revisionIn path patch tree) := by
  rw [leftBy, onTree, updateIn_eq]
  cases revisionIn path patch tree <;> rfl

theorem shape_find?_leftBy_updateElement (h : path ≠ other) (patch : Object) (tree : Element) :
    (((updateElement other patch).leftBy tree).find? path).map Element.shape =
      (tree.find? path).map Element.shape := by
  rw [leftBy]
  split
  · rfl
  · next after hedit =>
      obtain ⟨hpatch, target, shape, hfound, hpatched, rfl⟩ := updateIn_eq_ok hedit
      exact Element.shape_find?_modifyAt hfound (children_of_patchedShape? hpatch hpatched) h

private theorem revisionIn_leftBy_updateElement (h : path ≠ other) (patch patch' : Object)
    (tree : Element) :
    revisionIn path patch ((updateElement other patch').leftBy tree) =
      revisionIn path patch tree := by
  rw [revisionIn, shape_find?_leftBy_updateElement h, revisionIn]

theorem shape_find?_of_patchedShape? {target : Element} {patch : Object} {shape : Shape}
    (hfound : tree.find? path = some target) (hpatch : Effect.protectedField? patch = none)
    (hpatched : Effect.patchedShape? target.shape patch = some shape) :
    (((updateElement path patch).leftBy tree).find? path).map Element.shape = some shape := by
  rw [leftBy, onTree, updateIn_of_find? hpatch hfound, hpatched]
  simp only [Element.find?_modifyAt _ hfound, Option.map_some, Shape.shape_element]

theorem outcomeOn_updateElement (path : ElementPath) (patch : Object) (document : Document) :
    (updateElement path patch).outcomeOn document =
      ((revisionIn path patch document.template).map fun _ => path,
        ⟨(updateElement path patch).leftBy document.template, document.tokens⟩) := by
  rw [← answerOn_updateElement]
  exact outcomeOn_of_isStructural rfl document

theorem updateElement_commuteOn (h : path ≠ other) (patch patch' : Object) (document : Document) :
    CommuteOn (updateElement path patch) (updateElement other patch') document := by
  have hread := revisionIn_leftBy_updateElement h patch patch'
  have hread' := revisionIn_leftBy_updateElement h.symm patch' patch
  constructor
  · simp only [outcomeOn_updateElement, hread]
  · simp only [outcomeOn_updateElement, hread']
  · simp only [outcomeOn_updateElement]
    rw [leftBy_updateElement other patch' (leftBy _ _),
      leftBy_updateElement path patch (leftBy _ _), hread, hread', leftBy_updateElement,
      leftBy_updateElement, Element.revisedAt_comm h]

theorem updateTokens_commuteOn (tokens : DesignTokens) (h : edit.isStructural = true)
    (document : Document) : CommuteOn (updateTokens tokens) edit document := by
  constructor <;> simp only [outcomeOn_of_isStructural h] <;> rfl

end Edit

/-! ## Sessions -/

namespace Session

variable {session : Session}

/-- In either order each edit has the same answer, and both orders end in the same document. -/
structure Commute (session : Session) (edit edit' : Edit) : Prop where
  answer : ((session.apply edit').2.apply edit).1.map EditResult.path =
    (session.apply edit).1.map EditResult.path
  answer' : ((session.apply edit).2.apply edit').1.map EditResult.path =
    (session.apply edit').1.map EditResult.path
  result : ((session.apply edit).2.apply edit').2.document =
    ((session.apply edit').2.apply edit).2.document

private theorem answer_apply (h : session.history.WellFormed) (edit : Edit) :
    (session.apply edit).1.map EditResult.path = (edit.outcomeOn session.document).1 := by
  rw [Edit.outcomeOn]
  cases hedit : edit.onDocument session.document with
  | error error => rw [apply_of_error h hedit]; rfl
  | ok document =>
      obtain ⟨after, happly, -⟩ := apply_of_ok h hedit
      rw [happly]
      rfl

theorem document_apply (h : session.history.WellFormed) (edit : Edit) :
    (session.apply edit).2.document = (edit.outcomeOn session.document).2 := by
  rw [Edit.outcomeOn]
  cases hedit : edit.onDocument session.document with
  | error error => rw [apply_of_error h hedit]
  | ok document =>
      obtain ⟨after, happly, hrecords⟩ := apply_of_ok h hedit
      rw [happly, hrecords.document_eq]

theorem template_apply_updateElement (h : session.history.WellFormed) (path : ElementPath)
    (patch : Object) :
    (session.apply (.updateElement path patch)).2.template =
      (Edit.updateElement path patch).leftBy session.template := by
  have hdocument := document_apply h (.updateElement path patch)
  rw [Edit.outcomeOn_updateElement] at hdocument
  exact congrArg Document.template hdocument

theorem tokens_apply_of_isStructural {edit : Edit} (h : session.history.WellFormed)
    (hedit : edit.isStructural = true) : (session.apply edit).2.tokens = session.tokens := by
  have hdocument := document_apply h edit
  rw [Edit.outcomeOn_of_isStructural hedit] at hdocument
  exact congrArg Document.tokens hdocument

theorem commute_of_commuteOn {edit edit' : Edit} (h : session.history.WellFormed)
    (hcommute : edit.CommuteOn edit' session.document) : session.Commute edit edit' := by
  have hedit : (session.apply edit).2.history.WellFormed := wellFormed_step h (.edit edit)
  have hedit' : (session.apply edit').2.history.WellFormed := wellFormed_step h (.edit edit')
  constructor
  · rw [answer_apply hedit', document_apply h, answer_apply h, hcommute.answer]
  · rw [answer_apply hedit, document_apply h, answer_apply h, hcommute.answer']
  · rw [document_apply hedit, document_apply h, document_apply hedit', document_apply h,
      hcommute.result]

/-- Updates of two elements come to the same in either order: each is made or refused for the same
reason, and the document is the same in the end.  New tokens can change places with every edit of
the template.  What is made first is still there after the other edit. -/
theorem updates_commute (h : session.Reachable) :
    (∀ path other patch patch', path ≠ other →
      session.Commute (.updateElement path patch) (.updateElement other patch') ∧
      ∀ target shape, session.template.find? path = some target →
        Effect.protectedField? patch = none → Effect.patchedShape? target.shape patch = some shape →
        ((session.after [.edit (.updateElement path patch),
          .edit (.updateElement other patch')]).template.find? path).map Element.shape =
            some shape) ∧
    ∀ tokens edit, edit.isStructural = true →
      session.Commute (.updateTokens tokens) edit ∧
      (session.after [.edit (.updateTokens tokens), .edit edit]).tokens = tokens := by
  have hwell := h.wellFormed
  have hafter (edit : Edit) : (session.apply edit).2.history.WellFormed :=
    wellFormed_step hwell (.edit edit)
  constructor
  · intro path other patch patch' hpath
    refine ⟨commute_of_commuteOn hwell (Edit.updateElement_commuteOn hpath patch patch' _), ?_⟩
    intro target shape hfound hpatch hpatched
    change (((session.apply (.updateElement path patch)).2.apply
      (.updateElement other patch')).2.template.find? path).map Element.shape = some shape
    rw [template_apply_updateElement (hafter _), Edit.shape_find?_leftBy_updateElement hpath,
      template_apply_updateElement hwell]
    exact Edit.shape_find?_of_patchedShape? hfound hpatch hpatched
  · intro tokens edit hstructural
    refine ⟨commute_of_commuteOn hwell (Edit.updateTokens_commuteOn tokens hstructural _), ?_⟩
    have htokens := congrArg Document.tokens (document_apply hwell (.updateTokens tokens))
    exact (tokens_apply_of_isStructural (hafter _) hstructural).trans htokens

theorem updates_commute_inside :
    let session := start ⟨.frame [.text "Draft"], .empty⟩ 0
    let page : Edit := .updateElement [] (.ofFields [("id", .text "page")])
    let text : Edit := .updateElement [0] (.ofFields [("content", .text "Final")])
    session.Commute text page ∧
      ((session.after [.edit text, .edit page]).template.find? [0]).map Element.shape =
        some (Element.text "Final").shape ∧
      session.Commute (.updateTokens .empty) (.removeElement [0]) := by
  intro session page text
  have hpage : session.template = .frame [.text "Draft"] :=
    congrArg Document.template (document_start _ _)
  have hfound : session.template.find? [0] = some (.text "Draft") := hpage ▸ rfl
  obtain ⟨hupdates, htokens⟩ :=
    updates_commute ⟨⟨.frame [.text "Draft"], .empty⟩, 0, [], rfl⟩
  obtain ⟨hcommute, hmade⟩ := hupdates [0] [] (.ofFields [("content", .text "Final")])
    (.ofFields [("id", .text "page")]) (List.cons_ne_nil _ _)
  exact ⟨hcommute, hmade _ _ hfound (by rfl) (by rfl), (htokens .empty (.removeElement [0]) rfl).1⟩

end Session

end DocTemplate

import DocTemplate.Proofs.Render.Picture

/-!
# Hidden elements

An element without a picture in any scope that it is met in can be taken out of its template, and
the picture of the template stays as it is.  What a hidden element is made of, its condition apart,
is neither pictured nor reported, so anything else can stand in its place.
-/

namespace DocTemplate

namespace RenderSetting

variable {setting : RenderSetting} {scope : Option Json}

/-! ## Pictures of children -/

private theorem pictures_modify {children : List Element} {child : Element} {index : Nat}
    {change : Element → Element} (hchild : children[index]? = some child)
    (h : setting.picture scope (change child) = setting.picture scope child) :
    setting.pictures scope (children.modify index change) = setting.pictures scope children := by
  induction children generalizing index with
  | nil => cases hchild
  | cons first rest ih =>
      cases index with
      | zero =>
          cases hchild
          simp only [List.modify_zero_cons, pictures, h]
      | succ index => simp only [List.modify_succ_cons, pictures, ih hchild]

private theorem pictures_eraseIdx {children : List Element} {child : Element} {index : Nat}
    (hchild : children[index]? = some child) (h : setting.picture scope child = none) :
    setting.pictures scope (children.eraseIdx index) = setting.pictures scope children := by
  induction children generalizing index with
  | nil => cases hchild
  | cons first rest ih =>
      cases index with
      | zero =>
          cases hchild
          rw [List.eraseIdx_cons_zero, pictures, h]
          rfl
      | succ index => simp only [List.eraseIdx_cons_succ, pictures, ih hchild]

/-! ## Pictures of elements -/

theorem picture_eq_none_of_hidden {element : Element}
    (h : element.isShown setting.view scope = false) : setting.picture scope element = none := by
  cases element <;> simp [picture, h]

theorem picture_setCondition_none {element : Element}
    (h : element.isShown setting.view scope = true) :
    setting.picture scope (element.setCondition none) = setting.picture scope element := by
  cases element with
  | container kind children =>
      rw [Element.setCondition, picture, picture, if_pos h]
      cases kind <;> rfl
  | leaf kind =>
      rw [Element.setCondition, picture, picture, if_pos h]
      cases kind <;> rfl

/-- Only the pictures of the children matter, and only in the scopes that the children are met
in. -/
theorem picture_withChildren {element : Element} {children : List Element}
    (h : element.isShown setting.view scope = true →
      ∀ inner ∈ element.innerScopes setting.view scope,
        setting.pictures inner children = setting.pictures inner element.children) :
    setting.picture scope (element.withChildren children) = setting.picture scope element := by
  cases element with
  | leaf kind => rfl
  | container kind old =>
      have hvisible : (Element.container kind children).isShown setting.view scope =
          (Element.container kind old).isShown setting.view scope := rfl
      have hscopes : (Element.container kind children).innerScopes setting.view scope =
          (Element.container kind old).innerScopes setting.view scope := by cases kind <;> rfl
      change setting.picture scope (.container kind children) = _
      rw [picture, picture, hvisible, hscopes]
      split
      · next hshown =>
          rw [List.map_congr_left (h hshown)]
          rfl
      · rfl

/-! ## Changes further down -/

theorem picture_modifyAt {element target : Element} {path : ElementPath}
    {change : Element → Element} (hfind : element.find? path = some target)
    (h : ∀ inner ∈ element.scopesAt setting.view scope path,
      setting.picture inner (change target) = setting.picture inner target) :
    setting.picture scope (element.modifyAt change path) = setting.picture scope element := by
  induction path generalizing element scope with
  | nil =>
      cases hfind
      exact h scope (List.mem_singleton.mpr rfl)
  | cons index path ih =>
      obtain ⟨child, hchild, hfound⟩ := Option.bind_eq_some_iff.mp (Element.find?_cons .. ▸ hfind)
      refine picture_withChildren fun hshown middle hmiddle => pictures_modify hchild ?_
      refine ih hfound fun inner hinner => h inner (Element.mem_scopesAt_cons.mpr ?_)
      exact ⟨hshown, middle, hmiddle, child, hchild, hinner⟩

theorem picture_eraseAt {element target : Element} {path : ElementPath} (hpath : path ≠ [])
    (hfind : element.find? path = some target)
    (h : ∀ inner ∈ element.scopesAt setting.view scope path,
      setting.picture inner target = none) :
    setting.picture scope (element.eraseAt path) = setting.picture scope element := by
  rw [Element.eraseAt]
  cases hsplit : path.splitLast? with
  | none => exact absurd (ElementPath.splitLast?_eq_none_iff.mp hsplit) hpath
  | some last =>
      obtain ⟨parentPath, index⟩ := last
      obtain rfl := ElementPath.eq_child_of_splitLast? hsplit
      rw [Element.find?_child] at hfind
      obtain ⟨parent, hparent, hchild⟩ := Option.bind_eq_some_iff.mp hfind
      refine picture_modifyAt hparent fun middle hmiddle => ?_
      refine picture_withChildren fun hshown inner hinner => pictures_eraseIdx hchild ?_
      exact h inner (Element.mem_scopesAt_child.mpr
        ⟨parent, middle, hparent, hmiddle, hshown, hinner, target, hchild⟩)

/-! ## Reports -/

variable {view : View}

private theorem reportOf_of_hidden {element : Element} (h : element.isShown view scope = false)
    (path : ElementPath) :
    reportOf view (element.instancesAt view path scope) =
      DiagnosticCause.diagnosticsAt path (element.condition.toList.flatMap Condition.causes) := by
  rw [reportOf_instancesAt, h, if_neg Bool.false_ne_true, List.append_nil]

private theorem reportOf_childInstances_modify {children : List Element} {child : Element}
    {index : Nat} {change : Element → Element} (hchild : children[index]? = some child)
    (h : ∀ path, reportOf view ((change child).instancesAt view path scope) =
      reportOf view (child.instancesAt view path scope)) (path : ElementPath) (position : Nat) :
    reportOf view
        (Element.childInstances view path position scope (children.modify index change)) =
      reportOf view (Element.childInstances view path position scope children) := by
  induction children generalizing index position with
  | nil => cases hchild
  | cons first rest ih =>
      cases index with
      | zero =>
          cases hchild
          simp only [List.modify_zero_cons, Element.childInstances, reportOf_append, h]
      | succ index =>
          simp only [List.modify_succ_cons, Element.childInstances, reportOf_append, ih hchild]

private theorem reportOf_withChildren {element : Element} {children : List Element}
    {path : ElementPath}
    (h : element.isShown view scope = true → ∀ inner ∈ element.innerScopes view scope,
      reportOf view (Element.childInstances view path 0 inner children) =
        reportOf view (Element.childInstances view path 0 inner element.children)) :
    reportOf view ((element.withChildren children).instancesAt view path scope) =
      reportOf view (element.instancesAt view path scope) := by
  cases element with
  | leaf kind => rfl
  | container kind old =>
      have hvisible : (Element.container kind children).isShown view scope =
          (Element.container kind old).isShown view scope := rfl
      have hscopes : (Element.container kind children).innerScopes view scope =
          (Element.container kind old).innerScopes view scope := by cases kind <;> rfl
      change reportOf view ((Element.container kind children).instancesAt view path scope) = _
      rw [reportOf_instancesAt, reportOf_instancesAt, hvisible, hscopes]
      split
      · next hshown =>
          have hinside := congrArg List.flatten (List.map_congr_left (h hshown))
          rw [← List.flatMap_def, ← List.flatMap_def] at hinside
          rw [Element.children, hinside]
          rfl
      · rfl

private theorem reportOf_modifyAt {element target : Element} {path : ElementPath}
    {change : Element → Element} (hfind : element.find? path = some target)
    (h : ∀ inner ∈ element.scopesAt view scope path, ∀ base,
      reportOf view ((change target).instancesAt view base inner) =
        reportOf view (target.instancesAt view base inner)) (base : ElementPath) :
    reportOf view ((element.modifyAt change path).instancesAt view base scope) =
      reportOf view (element.instancesAt view base scope) := by
  induction path generalizing element scope base with
  | nil =>
      cases hfind
      exact h scope (List.mem_singleton.mpr rfl) base
  | cons index path ih =>
      obtain ⟨child, hchild, hfound⟩ := Option.bind_eq_some_iff.mp (Element.find?_cons .. ▸ hfind)
      refine reportOf_withChildren fun hshown middle hmiddle =>
        reportOf_childInstances_modify hchild (fun inside => ?_) base 0
      refine ih hfound (fun inner hinner => h inner (Element.mem_scopesAt_cons.mpr ?_)) inside
      exact ⟨hshown, middle, hmiddle, child, hchild, hinner⟩

end RenderSetting

/-! ## Elements that contribute nothing -/

private theorem Element.isShown_eq_of_condition {first second : Element}
    (h : first.condition = second.condition) (view : View) (scope : Option Json) :
    first.isShown view scope = second.isShown view scope := by
  rw [isShown, isShown, h]

/-- Whenever a render of the template comes to the path, the element there is hidden. -/
def Element.HiddenAt (template : Element) (view : View) (scope : Option Json)
    (path : ElementPath) : Prop :=
  ∀ met ∈ template.instances view scope, met.path = path → met.isShown view = false

instance {template : Element} {view : View} {scope : Option Json} {path : ElementPath} :
    Decidable (template.HiddenAt view scope path) :=
  inferInstanceAs (Decidable (∀ met ∈ template.instances view scope,
    met.path = path → met.isShown view = false))

section Replaced

variable {template element replacement : Element} {view : View} {scope : Option Json}
  {path : ElementPath}

theorem Element.HiddenAt.isShown (hhidden : template.HiddenAt view scope path)
    (hfind : template.find? path = some element) {inner : Option Json}
    (hinner : inner ∈ template.scopesAt view scope path) : element.isShown view inner = false :=
  hhidden ⟨path, inner, element⟩ (mem_instancesAt.mpr ⟨path, rfl, hfind, hinner⟩) rfl

theorem Element.HiddenAt.isShown_replacement (hhidden : template.HiddenAt view scope path)
    (hfind : template.find? path = some element)
    (hcondition : replacement.condition = element.condition) {inner : Option Json}
    (hinner : inner ∈ template.scopesAt view scope path) :
    replacement.isShown view inner = false :=
  (isShown_eq_of_condition hcondition view inner).trans (hhidden.isShown hfind hinner)

theorem RenderSetting.picture_replaceAt {setting : RenderSetting}
    (hhidden : template.HiddenAt setting.view scope path)
    (hfind : template.find? path = some element)
    (hcondition : replacement.condition = element.condition) :
    setting.picture scope (template.modifyAt (fun _ => replacement) path) =
      setting.picture scope template := by
  refine picture_modifyAt hfind fun inner hinner => ?_
  rw [picture_eq_none_of_hidden (hhidden.isShown_replacement hfind hcondition hinner),
    picture_eq_none_of_hidden (hhidden.isShown hfind hinner)]

theorem RenderSetting.reportOf_replaceAt (hhidden : template.HiddenAt view scope path)
    (hfind : template.find? path = some element)
    (hcondition : replacement.condition = element.condition) :
    reportOf view ((template.modifyAt (fun _ => replacement) path).instances view scope) =
      reportOf view (template.instances view scope) := by
  refine reportOf_modifyAt hfind (fun inner hinner base => ?_) .root
  rw [reportOf_of_hidden (hhidden.isShown_replacement hfind hcondition hinner),
    reportOf_of_hidden (hhidden.isShown hfind hinner), hcondition]

end Replaced

namespace Renderer

/-- An element that is unknown, or hidden in all of its instances, can be taken out of its template
without a trace in the node.  One that is hidden in all of its instances can also be exchanged for
any element with its condition, without a trace in the node and in the diagnostics. -/
theorem hidden_elements_are_free (view : View) (tokens : DesignTokens) (options : RenderOptions)
    (scope : Option Json) (template element : Element) (path : ElementPath)
    (hfind : template.find? path = some element) :
    let rendered (tree : Element) := ((start view tokens options).render tree scope).1
    let diagnostics (tree : Element) :=
      ((start view tokens options).render tree scope).2.takeDiagnostics.1
    (path ≠ [] →
      (∃ fields, element = .leaf (.unknown fields)) ∨ template.HiddenAt view scope path →
        rendered (template.eraseAt path) = rendered template) ∧
    (template.HiddenAt view scope path →
      ∀ replacement : Element, replacement.condition = element.condition →
        rendered (template.modifyAt (fun _ => replacement) path) = rendered template ∧
          diagnostics (template.modifyAt (fun _ => replacement) path) = diagnostics template) := by
  intro rendered diagnostics
  simp only [rendered, diagnostics, fst_render_start, diagnostics_render_start]
  constructor
  · intro hpath hcontributes
    refine RenderSetting.picture_eraseAt hpath hfind fun inner hinner => ?_
    rcases hcontributes with ⟨fields, rfl⟩ | hhidden
    · simp [RenderSetting.picture, RenderSetting.leafNode]
    · exact RenderSetting.picture_eq_none_of_hidden (hhidden.isShown hfind hinner)
  · intro hhidden replacement hcondition
    refine ⟨RenderSetting.picture_replaceAt hhidden hfind hcondition, ?_⟩
    rw [RenderSetting.reportOf_replaceAt hhidden hfind hcondition]

theorem hidden_elements_are_free_in_repeater :
    let off : Attributes := ⟨none, none, some ⟨"qty > 10", false⟩⟩
    let element : Element := .leaf (.text off none (some (.ofPath "qty")))
    let replacement : Element := .container (.frame off none) [.unknown "Chart", .text "x"]
    let body (first : Element) : Element :=
      .frame [.repeater (.ofPath "items") [first, .boundText (.ofPath "qty")]]
    let order (quantity : Int) : Json := .object [("qty", .number (.whole quantity))]
    let view : View := ⟨fun _ => .list [order 2, order 9], []⟩
    let renders (template : Element) := (start view .empty ⟨"", true⟩).render template none
    (body element).HiddenAt view none [0, 0] ∧
      (renders (.frame [.repeater (.ofPath "items") [.boundText (.ofPath "qty")]])).1 =
        (renders (body element)).1 ∧
      (renders (body replacement)).1 = (renders (body element)).1 ∧
      (renders (body replacement)).2.takeDiagnostics.1 =
        (renders (body element)).2.takeDiagnostics.1 := by
  intro off element replacement body order view renders
  have hhidden : (body element).HiddenAt view none [0, 0] := by decide +kernel
  obtain ⟨herased, hreplaced⟩ :=
    hidden_elements_are_free view .empty ⟨"", true⟩ none (body element) element [0, 0] rfl
  exact ⟨hhidden, herased (by decide) (.inr hhidden), hreplaced hhidden replacement rfl⟩

end Renderer

end DocTemplate

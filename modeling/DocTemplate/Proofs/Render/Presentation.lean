import DocTemplate.Proofs.Render.WellFormed

/-!
# Presentation and content

Styles and design tokens say how a document looks.  A template with all of its styles taken out
meets the same instances as the template itself, and their figures say the same under any tokens; so
what is shown, and what is reported, depends on neither.
-/

namespace DocTemplate

/-! ## Templates without styles -/

def Attributes.unstyled (attributes : Attributes) : Attributes := { attributes with style := .none }

def Container.unstyled : Container → Container
  | .frame attributes pageBreak => .frame attributes.unstyled pageBreak
  | .stack attributes flow => .stack attributes.unstyled flow
  | .grid attributes cells => .grid attributes.unstyled cells
  | .repeater _ condition binding => .repeater none condition binding

def Leaf.unstyled : Leaf → Leaf
  | .text attributes content binding => .text attributes.unstyled content binding
  | .image attributes picture => .image attributes.unstyled picture
  | .table attributes columns binding => .table attributes.unstyled columns binding
  | .divider attributes rule => .divider attributes.unstyled rule
  | .unknown fields => .unknown fields

namespace Element

mutual

def unstyled : Element → Element
  | .container kind children => .container kind.unstyled (unstyledAll children)
  | .leaf kind => .leaf kind.unstyled

def unstyledAll : List Element → List Element
  | [] => []
  | child :: rest => child.unstyled :: unstyledAll rest

end

private theorem unstyledAll_eq_map (children : List Element) :
    unstyledAll children = children.map unstyled := by
  induction children with
  | nil => rfl
  | cons child rest ih => rw [unstyledAll, ih, List.map_cons]

private theorem children_unstyled (element : Element) :
    element.unstyled.children = element.children.map unstyled := by
  cases element with
  | container kind children => exact unstyledAll_eq_map children
  | leaf kind => rfl

theorem condition_unstyled (element : Element) :
    element.unstyled.condition = element.condition := by
  cases element with
  | container kind children => cases kind <;> rfl
  | leaf kind => cases kind <;> rfl

theorem isShown_unstyled (element : Element) (view : View) (scope : Option Json) :
    element.unstyled.isShown view scope = element.isShown view scope := by
  rw [isShown, isShown, condition_unstyled]

private theorem innerScopes_unstyled (element : Element) (view : View) (scope : Option Json) :
    element.unstyled.innerScopes view scope = element.innerScopes view scope := by
  cases element with
  | container kind children => cases kind <;> rfl
  | leaf kind => rfl

end Element

/-! ## Instances without styles -/

namespace Instance

def unstyled (met : Instance) : Instance := { met with element := met.element.unstyled }

private theorem isShown_unstyled (met : Instance) (view : View) :
    met.unstyled.isShown view = met.isShown view :=
  met.element.isShown_unstyled view met.scope

private theorem contentCauses_unstyled (met : Instance) (view : View) :
    met.unstyled.contentCauses view = met.contentCauses view := by
  obtain ⟨path, scope, element⟩ := met
  cases element with
  | container kind children => rfl
  | leaf kind => cases kind <;> rfl

private theorem diagnostics_unstyled (met : Instance) (view : View) :
    met.unstyled.diagnostics view = met.diagnostics view := by
  have hcauses : met.unstyled.causes view = met.causes view := by
    rw [causes, causes, isShown_unstyled, contentCauses_unstyled]
    change met.element.unstyled.condition.toList.flatMap Condition.causes ++ _ = _
    rw [Element.condition_unstyled]
  rw [diagnostics, diagnostics, hcauses]
  rfl

end Instance

namespace Element

variable {view : View}

private theorem childInstances_unstyled {children : List Element}
    (h : ∀ child ∈ children, ∀ path scope,
      child.unstyled.instancesAt view path scope =
        (child.instancesAt view path scope).map Instance.unstyled)
    (path : ElementPath) (index : Nat) (scope : Option Json) :
    childInstances view path index scope (children.map unstyled) =
      (childInstances view path index scope children).map Instance.unstyled := by
  induction children generalizing index with
  | nil => rfl
  | cons child rest ih =>
      obtain ⟨hchild, hrest⟩ := List.forall_mem_cons.mp h
      rw [List.map_cons, childInstances, childInstances, List.map_append, hchild, ih hrest]

theorem instancesAt_unstyled (element : Element) (path : ElementPath) (scope : Option Json) :
    element.unstyled.instancesAt view path scope =
      (element.instancesAt view path scope).map Instance.unstyled := by
  induction element using inductionOnChildren generalizing path scope with
  | step element ih =>
      rw [instancesAt_eq, instancesAt_eq, List.map_cons, isShown_unstyled, innerScopes_unstyled,
        children_unstyled]
      congr 1
      split
      · rw [List.map_flatMap]
        exact congrArg List.flatten
          (List.map_congr_left fun inner _ => childInstances_unstyled ih path 0 inner)
      · rfl

end Element

/-! ## Content -/

structure Content where
  texts : List String
  grid : Option TableGrid

def Figure.content (figure : Figure) : Content := ⟨figure.texts, figure.grid?⟩

namespace Rendered

mutual

theorem texts_eq : (node : Rendered) → node.texts = (figuresOf [node]).flatMap Figure.texts
  | .box kind children => by rw [texts, textsOf_eq children, figuresOf_box]
  | .figure kind => by simp [texts]

theorem textsOf_eq : (trees : List Rendered) →
    textsOf trees = (figuresOf trees).flatMap Figure.texts
  | [] => rfl
  | node :: rest => by
      rw [textsOf, texts_eq node, textsOf_eq rest, ← List.flatMap_append, ← figuresOf_append,
        List.singleton_append]

end

private theorem texts_eq_content (node : Rendered) :
    node.texts = ((figuresOf [node]).map Figure.content).flatMap Content.texts := by
  rw [texts_eq, List.flatMap_map]
  rfl

theorem map_texts_congr {one other : Option Rendered} (hsome : one.isSome = other.isSome)
    (hcontent : (figuresOf one.toList).map Figure.content =
      (figuresOf other.toList).map Figure.content) : one.map texts = other.map texts := by
  cases one with
  | none =>
      cases other with
      | none => rfl
      | some node => cases hsome
  | some node =>
      cases other with
      | none => cases hsome
      | some node' =>
          rw [Option.map_some, Option.map_some, texts_eq_content, texts_eq_content]
          exact congrArg (fun contents => some (contents.flatMap Content.texts)) hcontent

theorem gridsOf_eq_content (trees : List Rendered) :
    gridsOf trees = ((figuresOf trees).map Figure.content).filterMap Content.grid := by
  rw [gridsOf, List.filterMap_map]
  rfl

end Rendered

namespace RenderSetting

variable (view : View) (options : RenderOptions) (tokens tokens' : DesignTokens)

theorem textOr_tokens (scope : Option Json) (literal : Option String)
    (binding : Option DataBinding) :
    textOr ⟨view, tokens, options⟩ scope literal binding =
      textOr ⟨view, tokens', options⟩ scope literal binding := by
  cases binding <;> rfl

private theorem rowsOf_tokens (scope : Option Json) (columns : List Column)
    (binding : DataBinding) :
    rowsOf ⟨view, tokens, options⟩ scope columns binding =
      rowsOf ⟨view, tokens', options⟩ scope columns binding := by
  simp only [rowsOf, textOr_tokens view options tokens tokens']

private theorem content_leafFigure? (scope : Option Json) (kind : Leaf) :
    (leafFigure? ⟨view, tokens', options⟩ scope kind.unstyled).map Figure.content =
      (leafFigure? ⟨view, tokens, options⟩ scope kind).map Figure.content := by
  cases kind with
  | text attributes content binding =>
      exact congrArg (fun text => some (Content.mk [text] none))
        (textOr_tokens view options tokens' tokens scope content binding)
  | table attributes columns binding =>
      exact congrArg (fun rows => some (Content.mk [] (some ⟨columns.map header, rows⟩)))
        (rowsOf_tokens view options tokens' tokens scope columns binding)
  | _ => rfl

private theorem content_figureOf? (met : Instance) :
    (figureOf? ⟨view, tokens', options⟩ met.unstyled).map Figure.content =
      (figureOf? ⟨view, tokens, options⟩ met).map Figure.content := by
  obtain ⟨path, scope, element⟩ := met
  cases element with
  | container kind children => rfl
  | leaf kind =>
      change (figureOf? _ ⟨path, scope, .leaf kind.unstyled⟩).map _ = _
      rw [figureOf?_leaf, figureOf?_leaf]
      change Option.map _ (if (Element.leaf kind).unstyled.isShown view scope then _ else _) = _
      rw [Element.isShown_unstyled]
      split
      · exact content_leafFigure? view options tokens tokens' scope kind
      · rfl

theorem content_picture (scope : Option Json) (element : Element) :
    (Rendered.figuresOf (picture ⟨view, tokens', options⟩ scope element.unstyled).toList).map
        Figure.content =
      (Rendered.figuresOf (picture ⟨view, tokens, options⟩ scope element).toList).map
        Figure.content := by
  rw [figuresOf_picture _ .root, figuresOf_picture _ .root, Element.instancesAt_unstyled,
    List.filterMap_map, List.map_filterMap, List.map_filterMap]
  exact List.filterMap_congr fun met _ => content_figureOf? view options tokens tokens' met

theorem isSome_picture (scope : Option Json) (element : Element) :
    (picture ⟨view, tokens', options⟩ scope element.unstyled).isSome =
      (picture ⟨view, tokens, options⟩ scope element).isSome := by
  have hshown := element.isShown_unstyled view scope
  cases element with
  | container kind children =>
      rw [Element.unstyled] at hshown ⊢
      rw [picture, picture, hshown]
      split <;> rfl
  | leaf kind =>
      rw [Element.unstyled] at hshown ⊢
      rw [picture, picture, hshown]
      split
      · cases kind <;> rfl
      · rfl

theorem reportOf_unstyled (scope : Option Json) (element : Element) :
    reportOf view (element.unstyled.instances view scope) =
      reportOf view (element.instances view scope) := by
  rw [reportOf, reportOf, Element.instances, Element.instances, Element.instancesAt_unstyled,
    List.flatMap_map]
  exact congrArg List.flatten
    (List.map_congr_left fun met _ => met.diagnostics_unstyled view)

end RenderSetting

namespace Renderer

/-- Two templates that are the same without their styles are rendered to the same texts and the same
tables with the same diagnostics, or both to nothing, whatever the tokens are. -/
theorem presentation_never_influences_content (view : View) (options : RenderOptions)
    (scope : Option Json) (tokens tokens' : DesignTokens) (first second : Element)
    (h : first.unstyled = second.unstyled) :
    let one := (start view tokens options).render first scope
    let other := (start view tokens' options).render second scope
    one.1.isSome = other.1.isSome ∧
      one.1.map Rendered.texts = other.1.map Rendered.texts ∧
      Rendered.gridsOf one.1.toList = Rendered.gridsOf other.1.toList ∧
      one.2.takeDiagnostics.1 = other.2.takeDiagnostics.1 := by
  intro one other
  have hfirst : one.1 = RenderSetting.picture ⟨view, tokens, options⟩ scope first :=
    fst_render_start view tokens options first scope
  have hsecond : other.1 = RenderSetting.picture ⟨view, tokens', options⟩ scope second :=
    fst_render_start view tokens' options second scope
  have hsome : one.1.isSome = other.1.isSome := by
    rw [hfirst, hsecond, ← RenderSetting.isSome_picture view options tokens tokens', h,
      RenderSetting.isSome_picture view options tokens' tokens']
  have hcontent : (Rendered.figuresOf one.1.toList).map Figure.content =
      (Rendered.figuresOf other.1.toList).map Figure.content := by
    rw [hfirst, hsecond, ← RenderSetting.content_picture view options tokens tokens', h,
      RenderSetting.content_picture view options tokens' tokens']
  refine ⟨hsome, Rendered.map_texts_congr hsome hcontent, ?_, ?_⟩
  · rw [Rendered.gridsOf_eq_content, Rendered.gridsOf_eq_content, hcontent]
  · have hreport := RenderSetting.reportOf_unstyled view scope first
    rw [h, RenderSetting.reportOf_unstyled] at hreport
    simp only [one, other, diagnostics_render_start]
    exact congrArg (fun report => if options.collectDiagnostics then report else []) hreport.symm

/-- A style on the outer repeater frames each of its items; on the inner one an empty style does
nothing. -/
theorem presentation_never_influences_content_nested :
    let red : Object := .ofFields [("color", .text "red")]
    let body (outer inner : Option Object) : Element :=
      .frame [.container (.repeater outer none (.ofPath "items"))
        [.container (.repeater inner none (.ofPath "parts")) [.boundText (.ofPath "name")],
          .unknown "Chart"]]
    let part (name : String) : Json := .object [("name", .text name)]
    let item : Json := .object [("parts", .list [part "a", part "b"])]
    let view : View := ⟨fun _ => .list [item, item], []⟩
    let tokens : DesignTokens := ⟨.ofList [("text", "blue")], .empty⟩
    let one := (start view .empty ⟨"", true⟩).render (body (some red) none) none
    let other := (start view tokens ⟨"", true⟩).render (body none (some .empty)) none
    (body (some red) none).unstyled = (body none (some .empty)).unstyled ∧
      one.1.isSome = other.1.isSome ∧
      one.1.map Rendered.texts = other.1.map Rendered.texts ∧
      Rendered.gridsOf one.1.toList = Rendered.gridsOf other.1.toList ∧
      one.2.takeDiagnostics.1 = other.2.takeDiagnostics.1 := by
  intro red body part item view tokens one other
  have hunstyled : (body (some red) none).unstyled = (body none (some .empty)).unstyled := rfl
  exact ⟨hunstyled,
    presentation_never_influences_content view ⟨"", true⟩ none .empty tokens _ _ hunstyled⟩

end Renderer

end DocTemplate

import DocTemplate.Proofs.Render.Action
import DocTemplate.Proofs.Render.Instances

/-!
# The picture of a template

The node that an element is rendered to, said without a memory and without diagnostics.  A render
gives this picture, and reports what the instances of the template give cause for.
-/

namespace DocTemplate

open DiagnosticCause (diagnosticsAt diagnosticsAt_nil diagnosticsAt_append diagnosticsAt_flatMap)

namespace RenderSetting

/-! ## Nodes -/

def textOr (setting : RenderSetting) (scope : Option Json) (literal : Option String) :
    Option DataBinding → String
  | some binding => binding.textIn setting.options.dateFormat setting.view scope
  | none => literal.getD ""

def rowsOf (setting : RenderSetting) (scope : Option Json) (columns : List Column)
    (binding : DataBinding) : List (List String) :=
  (binding.itemsIn setting.view scope).map fun row =>
    columns.map fun column => setting.textOr (some row) none column.binding

def leafNode (setting : RenderSetting) (scope : Option Json) : Leaf → Option Rendered
  | .text attributes content binding =>
      some (.figure (.text attributes.id (setting.textStyle attributes.style)
        (setting.textOr scope content binding)))
  | .image attributes picture =>
      some (.figure (.image attributes.id (ownStyle attributes.style)
        ⟨setting.textOr scope picture.src picture.binding, picture.alt.getD "", picture.objectFit,
          picture.aspectRatio⟩))
  | .table attributes columns binding =>
      some (.figure (.table attributes.id (setting.tableStyle attributes.style)
        (columns.map header) (setting.rowsOf scope columns binding)))
  | .divider attributes rule =>
      some (.figure (.divider attributes.id (ownStyle attributes.style)
        (rule.thickness.getD .one) (rule.color.or (setting.tokens.color? "border"))))
  | .unknown _ => none

def boxNode (kind : Container) (instances : List (List Rendered)) : Rendered :=
  match kind with
  | .frame attributes pageBreak =>
      .box (.frame attributes.id (ownStyle attributes.style) (pageBreak.getD false))
        instances.flatten
  | .stack attributes flow =>
      .box (.stack attributes.id (ownStyle attributes.style) (flowOf flow)) instances.flatten
  | .grid attributes cells =>
      .box (.grid attributes.id (ownStyle attributes.style) cells) instances.flatten
  | .repeater style _ _ => .box .fragment (repeated style instances)

mutual

/-- The node of an element; none where it is not shown. -/
def picture (setting : RenderSetting) (scope : Option Json) : Element → Option Rendered
  | .leaf kind =>
      if (Element.leaf kind).isShown setting.view scope then setting.leafNode scope kind else none
  | .container kind children =>
      if (Element.container kind children).isShown setting.view scope then
        some (boxNode kind (((Element.container kind children).innerScopes setting.view scope).map
          fun inner => pictures setting inner children))
      else none

def pictures (setting : RenderSetting) (scope : Option Json) : List Element → List Rendered
  | [] => []
  | child :: rest => spliced (picture setting scope child) ++ pictures setting scope rest

end

/-! ## What single steps give -/

variable {setting : RenderSetting}

private theorem gives_isShown (path : ElementPath) (scope : Option Json)
    (condition : Option Condition) :
    setting.Gives path (setting.isShown scope condition)
      (condition.all (·.holds setting.view scope))
      (diagnosticsAt path (condition.toList.flatMap Condition.causes)) := by
  cases condition with
  | none => exact gives_pure true
  | some condition =>
      simp only [isShown, Option.all_some, Condition.holds, Test.evaluate, Option.toList_some,
        List.flatMap_singleton, Condition.causes]
      cases Test.parse condition.expression with
      | ok test => exact gives_pure _
      | error error => exact (gives_diagnose path (.malformedCondition error)).bind (gives_pure _)

private theorem gives_boundText (path : ElementPath) (scope : Option Json) (binding : DataBinding) :
    setting.Gives path (setting.boundText scope binding)
      (binding.textIn setting.options.dateFormat setting.view scope)
      (diagnosticsAt path binding.causes) := by
  have htext := binding.answers_resolve setting.options.dateFormat setting.view scope
  rw [boundText, DataBinding.causes]
  cases binding.unknownFormatter? with
  | none => exact gives_withPaths htext
  | some name =>
      exact (gives_diagnose path (.unknownFormatter name)).bind (gives_withPaths htext)

theorem gives_boundOr (path : ElementPath) (scope : Option Json) (literal : Option String)
    (binding : Option DataBinding) :
    setting.Gives path (setting.boundOr scope literal binding)
      (setting.textOr scope literal binding)
      (diagnosticsAt path (binding.toList.flatMap DataBinding.causes)) := by
  cases binding with
  | none => exact gives_pure _
  | some binding =>
      rw [Option.toList_some, List.flatMap_singleton]
      exact gives_boundText path scope binding

theorem gives_boundItems (path : ElementPath) (scope : Option Json) (binding : DataBinding) :
    setting.Gives path (setting.boundItems scope binding) (binding.itemsIn setting.view scope)
      [] := by
  refine (gives_withPaths (PathMemory.answers_lookup? ..)).bind ?_
  rw [DataBinding.itemsIn]
  match setting.view.valueAt? scope binding.path with
  | none => exact gives_pure []
  | some (.list items) => exact gives_pure items
  | some .null | some (.bool _) | some (.number _) | some (.text _) | some (.object _) =>
      exact gives_pure []

private theorem gives_renderRow (path : ElementPath) (columns : List Column) (row : Json) :
    setting.Gives path (setting.renderRow columns row)
      (columns.map fun column => setting.textOr (some row) none column.binding)
      (diagnosticsAt path
        (columns.flatMap fun column => column.binding.toList.flatMap DataBinding.causes)) := by
  rw [diagnosticsAt_flatMap]
  exact gives_mapM fun column _ => gives_boundOr path (some row) none column.binding

private theorem gives_renderLeaf (path : ElementPath) (scope : Option Json) (kind : Leaf) :
    setting.Gives path (setting.renderLeaf scope kind) (setting.leafNode scope kind)
      (diagnosticsAt path (kind.causes setting.view scope)) := by
  cases kind with
  | text attributes content binding => exact (gives_boundOr path scope content binding).map _
  | image attributes picture => exact (gives_boundOr path scope picture.src picture.binding).map _
  | table attributes columns binding =>
      rw [Leaf.causes, diagnosticsAt_flatMap]
      refine (gives_boundItems path scope binding).bind ?_
      exact (gives_mapM fun row _ => gives_renderRow path columns row).map _
  | divider attributes rule => exact gives_pure _
  | unknown fields =>
      exact (gives_diagnose path (.unknownTag (unknownType fields))).bind (gives_pure none)

/-! ## What a render gives -/

def reportOf (view : View) (instances : List Instance) : List Diagnostic :=
  instances.flatMap (·.diagnostics view)

theorem reportOf_append (view : View) (first second : List Instance) :
    reportOf view (first ++ second) = reportOf view first ++ reportOf view second :=
  List.flatMap_append

private theorem gives_renderChildren {children : List Element}
    (h : ∀ child ∈ children, ∀ path scope,
      setting.Gives path (setting.renderElement scope child) (setting.picture scope child)
        (reportOf setting.view (child.instancesAt setting.view path scope)))
    (path : ElementPath) (index : Nat) (scope : Option Json) :
    setting.Gives path (setting.renderChildren index scope children)
      (setting.pictures scope children)
      (reportOf setting.view (Element.childInstances setting.view path index scope children)) := by
  induction children generalizing index with
  | nil => exact gives_pure []
  | cons child rest ih =>
      obtain ⟨hchild, hrest⟩ := List.forall_mem_cons.mp h
      rw [renderChildren, pictures, Element.childInstances, reportOf_append]
      exact (gives_inChild (hchild _ scope)).bind ((ih hrest (index + 1)).map _)

theorem reportOf_instancesAt (view : View) (path : ElementPath) (scope : Option Json)
    (element : Element) :
    reportOf view (element.instancesAt view path scope) =
      diagnosticsAt path (element.condition.toList.flatMap Condition.causes) ++
        if element.isShown view scope then
          diagnosticsAt path (Instance.contentCauses ⟨path, scope, element⟩ view) ++
            (element.innerScopes view scope).flatMap fun inner =>
              reportOf view (Element.childInstances view path 0 inner element.children)
        else [] := by
  rw [Element.instancesAt_eq, reportOf, List.flatMap_cons]
  change diagnosticsAt path (Instance.causes ⟨path, scope, element⟩ view) ++ _ = _
  rw [Instance.causes, Instance.isShown, diagnosticsAt_append, List.append_assoc]
  split
  · rw [List.flatMap_assoc]
    rfl
  · rfl

private theorem gives_whenShown {action : RenderM (Option Rendered)} {node : Option Rendered}
    {reported : List Diagnostic} (path : ElementPath) (scope : Option Json)
    (condition : Option Condition) (h : setting.Gives path action node reported) :
    setting.Gives path
      (do if ← setting.isShown scope condition then action else return none)
      (if condition.all (·.holds setting.view scope) then node else none)
      (diagnosticsAt path (condition.toList.flatMap Condition.causes) ++
        if condition.all (·.holds setting.view scope) then reported else []) := by
  refine (gives_isShown path scope condition).bind ?_
  split
  · exact h
  · exact gives_pure none

theorem gives_renderElement (element : Element) (path : ElementPath) (scope : Option Json) :
    setting.Gives path (setting.renderElement scope element) (setting.picture scope element)
      (reportOf setting.view (element.instancesAt setting.view path scope)) := by
  induction element using Element.inductionOnChildren generalizing path scope with
  | step element ih =>
      rw [reportOf_instancesAt]
      cases element with
      | leaf kind =>
          rw [renderElement, picture]
          refine gives_whenShown path scope _ ?_
          simpa [Element.innerScopes, Instance.contentCauses] using gives_renderLeaf path scope kind
      | container kind children =>
          have hchildren := gives_renderChildren ih path 0
          simp only [Element.children] at hchildren ⊢
          cases kind with
          | repeater style condition binding =>
              rw [renderElement, picture]
              refine gives_whenShown path scope _ ?_
              simp only [Element.innerScopes, boxNode, List.map_map, List.flatMap_map]
              refine (gives_boundItems path scope binding).bind ?_
              exact (gives_mapM fun item _ => hchildren (some item)).map _
          -- the other containers have their children once, in the scope around them
          | _ =>
              rw [renderElement, picture]
              refine gives_whenShown path scope _ ?_
              simp only [Element.innerScopes, boxNode, List.map_singleton, List.flatten_singleton,
                List.flatMap_singleton]
              exact (hchildren scope).map _

end RenderSetting

namespace Renderer

open RenderSetting (reportOf)

variable (view : View) (tokens : DesignTokens) (options : RenderOptions) (template : Element)
  (scope : Option Json)

theorem fst_render_start :
    ((start view tokens options).render template scope).1 =
      RenderSetting.picture ⟨view, tokens, options⟩ scope template :=
  (RenderSetting.gives_renderElement template .root scope).result .empty
    RenderMemory.standsAt_empty

theorem diagnostics_render_start :
    ((start view tokens options).render template scope).2.takeDiagnostics.1 =
      RenderSetting.kept ⟨view, tokens, options⟩ (reportOf view (template.instances view scope)) :=
  (RenderSetting.gives_renderElement template .root scope).diagnostics .empty
    RenderMemory.standsAt_empty

end Renderer

end DocTemplate

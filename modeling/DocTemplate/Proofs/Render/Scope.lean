import DocTemplate.Proofs.Render.Picture

/-!
# Scopes that are not read

The item of a repeated element is read through unqualified paths and through array markers, and it
takes the place of the scope around it.  So a template whose other paths are all qualified and
without markers, up to its repeated bodies, looks the same in every scope.
-/

namespace DocTemplate

/-! ## Paths -/

def DataStep.isItem : DataStep → Bool
  | .item _ => true
  | _ => false

/-- The path has several segments, and none of them marks the item of an array. -/
structure DataPath.SkipsScope (path : DataPath) : Prop where
  qualified : path.qualified = true
  unmarked : ∀ step ∈ path.steps, step.isItem = false

instance (path : DataPath) : Decidable path.SkipsScope :=
  decidable_of_iff (path.qualified = true ∧ ∀ step ∈ path.steps, step.isItem = false)
    ⟨fun h => ⟨h.1, h.2⟩, fun h => ⟨h.1, h.2⟩⟩

private theorem followSteps?_congr {steps : List DataStep} (h : ∀ step ∈ steps, step.isItem = false)
    (first second : Option Json) (value : Json) :
    followSteps? first value steps = followSteps? second value steps := by
  induction steps generalizing value with
  | nil => rfl
  | cons step steps ih =>
      obtain ⟨hstep, hrest⟩ := List.forall_mem_cons.mp h
      cases step with
      | item name => cases hstep
      | field name => simp only [followSteps?, ih hrest]
      | index position => simp only [followSteps?, ih hrest]

namespace DataPath

variable {path : DataPath}

private theorem SkipsScope.readsScope (h : path.SkipsScope) (scope : Option Json) :
    path.readsScope scope = false := by
  simp only [DataPath.readsScope, h.qualified, Bool.not_true, Bool.false_and]
  split <;> rfl

theorem SkipsScope.lookup? (h : path.SkipsScope) (view : View) (first second : Option Json) :
    path.lookup? view first = path.lookup? view second := by
  rw [DataPath.lookup?, DataPath.lookup?]
  cases hsteps : path.steps with
  | nil => rfl
  | cons step steps =>
      have hunmarked := h.unmarked
      rw [hsteps] at hunmarked
      obtain ⟨hstep, hrest⟩ := List.forall_mem_cons.mp hunmarked
      have hstart : path.start? view first step = path.start? view second step := by
        cases step with
        | item name => cases hstep
        | field name => simp [DataPath.start?, h.readsScope]
        | index position => rfl
      simp only [hstart, followSteps?_congr hrest first second]

end DataPath

/-! ## Paths of conditions and bindings -/

def Test.path : Test → DataPath
  | .truth path => path
  | .compare left _ _ => left

def Condition.path? (condition : Condition) : Option DataPath :=
  (Test.parse condition.expression).toOption.map Test.path

def DataBinding.path? (binding : DataBinding) : Option DataPath :=
  (DataPath.parse binding.path).toOption

/-! ## Paths of an element -/

def Container.isRepeater : Container → Bool
  | .repeater _ _ _ => true
  | _ => false

def Container.bindings : Container → List DataBinding
  | .repeater _ _ binding => [binding]
  | _ => []

/-- The bindings that are read in the scope of the leaf; those of columns are read in rows. -/
def Leaf.bindings : Leaf → List DataBinding
  | .text _ _ binding => binding.toList
  | .image _ picture => picture.binding.toList
  | .table _ _ binding => [binding]
  | .divider _ _ => []
  | .unknown _ => []

def Shape.bindings : Shape → List DataBinding
  | .container kind => kind.bindings
  | .leaf kind => kind.bindings

namespace Element

def ownPaths (element : Element) : List DataPath :=
  (element.condition.bind Condition.path?).toList ++
    element.shape.bindings.filterMap DataBinding.path?

mutual

/-- The paths that are read in the scope of the element: all but those in repeated bodies and in
columns. -/
def outerPaths : Element → List DataPath
  | .leaf kind => ownPaths (.leaf kind)
  | .container kind children =>
      ownPaths (.container kind children) ++
        if kind.isRepeater then [] else outerPathsIn children

def outerPathsIn : List Element → List DataPath
  | [] => []
  | child :: rest => child.outerPaths ++ outerPathsIn rest

end

private theorem mem_outerPathsIn {children : List Element} {path : DataPath} :
    path ∈ outerPathsIn children ↔ ∃ child ∈ children, path ∈ child.outerPaths := by
  induction children with
  | nil => simp [outerPathsIn]
  | cons child rest ih => simp [outerPathsIn, ih]

private theorem ownPaths_subset (element : Element) : element.ownPaths ⊆ element.outerPaths := by
  cases element with
  | leaf kind => exact List.Subset.refl _
  | container kind children => exact List.subset_append_left _ _

private theorem outerPaths_child_subset {kind : Container} {children : List Element}
    {child : Element} (hkind : kind.isRepeater = false) (hchild : child ∈ children) :
    child.outerPaths ⊆ (container kind children).outerPaths := by
  intro path hpath
  rw [outerPaths, hkind]
  exact List.mem_append_right _ (mem_outerPathsIn.mpr ⟨child, hchild, hpath⟩)

def SkipsScope (element : Element) : Prop := ∀ path ∈ element.outerPaths, path.SkipsScope

instance (element : Element) : Decidable element.SkipsScope :=
  inferInstanceAs (Decidable (∀ path ∈ element.outerPaths, path.SkipsScope))

end Element

/-! ## Single elements in two scopes -/

variable {view : View} {first second : Option Json}

private theorem DataBinding.valueAt?_congr {binding : DataBinding}
    (h : ∀ path ∈ binding.path?, path.SkipsScope) :
    view.valueAt? first binding.path = view.valueAt? second binding.path := by
  rw [View.valueAt?, View.valueAt?]
  cases hparse : DataPath.parse binding.path with
  | error error => rfl
  | ok path => exact (h path (by simp [path?, hparse, Except.toOption])).lookup? view first second

theorem DataBinding.itemsIn_congr {binding : DataBinding}
    (h : ∀ path ∈ binding.path?, path.SkipsScope) :
    binding.itemsIn view first = binding.itemsIn view second := by
  rw [itemsIn, itemsIn, valueAt?_congr h]

private theorem DataBinding.textIn_congr {binding : DataBinding} (pattern : String)
    (h : ∀ path ∈ binding.path?, path.SkipsScope) :
    binding.textIn pattern view first = binding.textIn pattern view second := by
  have houtcome : binding.outcome pattern view first = binding.outcome pattern view second := by
    rw [outcome, outcome]
    cases hparse : DataPath.parse binding.path with
    | error error => rfl
    | ok path =>
        have hpath := h path (by simp [path?, hparse, Except.toOption])
        simp only [hpath.lookup? view first second]
  rw [textIn, textIn, houtcome]

private theorem Test.holds_congr {test : Test} (h : test.path.SkipsScope) :
    test.holds view first = test.holds view second := by
  cases test with
  | truth path =>
      have hpath : path.SkipsScope := h
      rw [holds, holds, hpath.lookup? view first second]
  | compare left comparison right =>
      have hleft : left.SkipsScope := h
      rw [holds, holds, hleft.lookup? view first second]

private theorem Condition.holds_congr {condition : Condition}
    (h : ∀ path ∈ condition.path?, path.SkipsScope) :
    condition.holds view first = condition.holds view second := by
  rw [holds, holds, Test.evaluate, Test.evaluate]
  cases hparse : Test.parse condition.expression with
  | error error => rfl
  | ok test =>
      have hpath := h test.path (by simp [path?, hparse, Except.toOption])
      exact congrArg (· != condition.invert) (Test.holds_congr hpath)

namespace Element

variable {element : Element}

private theorem isShown_congr (h : ∀ path ∈ element.ownPaths, path.SkipsScope) :
    element.isShown view first = element.isShown view second := by
  rw [isShown, isShown]
  cases hcondition : element.condition with
  | none => rfl
  | some condition =>
      refine Condition.holds_congr fun path hpath => h path (List.mem_append_left _ ?_)
      simp [hcondition, Option.mem_def.mp hpath]

private theorem skipsScope_of_mem_bindings (h : ∀ path ∈ element.ownPaths, path.SkipsScope)
    {binding : DataBinding} (hbinding : binding ∈ element.shape.bindings) :
    ∀ path ∈ binding.path?, path.SkipsScope := by
  intro path hpath
  exact h path (List.mem_append_right _ (List.mem_filterMap.mpr ⟨binding, hbinding, hpath⟩))

end Element

namespace RenderSetting

variable {setting : RenderSetting}

private theorem textOr_congr {binding : Option DataBinding} (literal : Option String)
    (h : ∀ bound ∈ binding, ∀ path ∈ bound.path?, path.SkipsScope) :
    setting.textOr first literal binding = setting.textOr second literal binding := by
  cases binding with
  | none => rfl
  | some bound => exact bound.textIn_congr _ (h bound rfl)

private theorem leafNode_congr {kind : Leaf}
    (h : ∀ bound ∈ kind.bindings, ∀ path ∈ bound.path?, path.SkipsScope) :
    setting.leafNode first kind = setting.leafNode second kind := by
  cases kind with
  | text attributes content binding =>
      rw [leafNode, leafNode,
        textOr_congr content fun bound hbound => h bound (Option.mem_toList.mpr hbound)]
  | image attributes picture =>
      rw [leafNode, leafNode,
        textOr_congr picture.src fun bound hbound => h bound (Option.mem_toList.mpr hbound)]
  | table attributes columns binding =>
      rw [leafNode, leafNode, rowsOf, rowsOf,
        DataBinding.itemsIn_congr (h binding (List.mem_singleton_self binding))]
  | divider attributes rule => rfl
  | unknown fields => rfl

private theorem causes_congr {kind : Leaf}
    (h : ∀ bound ∈ kind.bindings, ∀ path ∈ bound.path?, path.SkipsScope) :
    kind.causes view first = kind.causes view second := by
  cases kind with
  | table attributes columns binding =>
      rw [Leaf.causes, Leaf.causes,
        DataBinding.itemsIn_congr (h binding (List.mem_singleton_self binding))]
  | _ => rfl

/-! ## Whole templates in two scopes -/

structure SameIn (setting : RenderSetting) (first second : Option Json) (element : Element) :
    Prop where
  picture : setting.picture first element = setting.picture second element
  report : ∀ path, reportOf setting.view (element.instancesAt setting.view path first) =
    reportOf setting.view (element.instancesAt setting.view path second)

private theorem pictures_congr_scope {children : List Element}
    (h : ∀ child ∈ children, setting.SameIn first second child) :
    setting.pictures first children = setting.pictures second children := by
  induction children with
  | nil => rfl
  | cons child rest ih =>
      obtain ⟨hchild, hrest⟩ := List.forall_mem_cons.mp h
      rw [pictures, pictures, hchild.picture, ih hrest]

private theorem reportOf_childInstances_congr {children : List Element}
    (h : ∀ child ∈ children, setting.SameIn first second child) (path : ElementPath)
    (index : Nat) :
    reportOf setting.view (Element.childInstances setting.view path index first children) =
      reportOf setting.view (Element.childInstances setting.view path index second children) := by
  induction children generalizing index with
  | nil => rfl
  | cons child rest ih =>
      obtain ⟨hchild, hrest⟩ := List.forall_mem_cons.mp h
      rw [Element.childInstances, Element.childInstances, reportOf_append, reportOf_append,
        hchild.report, ih hrest]

private theorem innerScopes_of_not_repeater {kind : Container} (h : kind.isRepeater = false)
    (children : List Element) (view : View) (scope : Option Json) :
    (Element.container kind children).innerScopes view scope = [scope] := by
  cases kind with
  | repeater style condition binding => cases h
  | _ => rfl

private theorem innerScopes_of_repeater {kind : Container} (h : kind.isRepeater = true)
    (children : List Element)
    (hbindings : ∀ binding ∈ kind.bindings, ∀ path ∈ binding.path?, path.SkipsScope)
    (view : View) (first second : Option Json) :
    (Element.container kind children).innerScopes view first =
      (Element.container kind children).innerScopes view second := by
  cases kind with
  | repeater style condition binding =>
      have hbinding := hbindings binding (List.mem_singleton_self binding)
      exact congrArg (List.map some) (DataBinding.itemsIn_congr hbinding)
  | _ => cases h

theorem sameIn_of_skipsScope {element : Element} (h : element.SkipsScope)
    (first second : Option Json) : setting.SameIn first second element := by
  induction element using Element.inductionOnChildren with
  | step element ih =>
      have hown : ∀ path ∈ element.ownPaths, path.SkipsScope :=
        fun path hpath => h path (element.ownPaths_subset hpath)
      have hbindings (binding : DataBinding) (hmem : binding ∈ element.shape.bindings) :=
        Element.skipsScope_of_mem_bindings hown hmem
      have hshown : element.isShown setting.view first = element.isShown setting.view second :=
        Element.isShown_congr hown
      cases element with
      | leaf kind =>
          constructor
          · rw [picture, picture, hshown, leafNode_congr hbindings]
          · intro path
            have hcauses : Instance.contentCauses ⟨path, first, .leaf kind⟩ setting.view =
                Instance.contentCauses ⟨path, second, .leaf kind⟩ setting.view :=
              causes_congr hbindings
            rw [reportOf_instancesAt, reportOf_instancesAt, hshown, hcauses]
            rfl
      | container kind children =>
          cases hkind : kind.isRepeater with
          | true =>
              -- the children are met in the items alone, and the items are the same
              have hscopes :=
                innerScopes_of_repeater hkind children hbindings setting.view first second
              constructor
              · rw [picture, picture, hshown, hscopes]
              · intro path
                rw [reportOf_instancesAt, reportOf_instancesAt, hshown, hscopes]
                rfl
          | false =>
              have hchildren : ∀ child ∈ children, setting.SameIn first second child :=
                fun child hchild => ih child hchild fun path hpath =>
                  h path (Element.outerPaths_child_subset hkind hchild hpath)
              have hscopes := innerScopes_of_not_repeater hkind children setting.view
              constructor
              · rw [picture, picture, hshown, hscopes, hscopes, List.map_singleton,
                  List.map_singleton, pictures_congr_scope hchildren]
              · intro path
                rw [reportOf_instancesAt, reportOf_instancesAt, hshown, hscopes, hscopes,
                  List.flatMap_singleton, List.flatMap_singleton]
                simp only [Element.children, reportOf_childInstances_congr hchildren]
                rfl

end RenderSetting

namespace Renderer

/-- Where no path outside of repeated bodies and columns is unqualified or marked, two scopes give
one node and the same diagnostics, whatever is read inside of the bodies and columns. -/
theorem renders_same_in_every_scope (element : Element) (h : element.SkipsScope) (view : View)
    (tokens : DesignTokens) (options : RenderOptions) (first second : Option Json) :
    let renders (scope : Option Json) := (start view tokens options).render element scope
    (renders first).1 = (renders second).1 ∧
      (renders first).2.takeDiagnostics.1 = (renders second).2.takeDiagnostics.1 := by
  intro renders
  have hsame : RenderSetting.SameIn ⟨view, tokens, options⟩ first second element :=
    RenderSetting.sameIn_of_skipsScope h first second
  constructor
  · simp only [renders, fst_render_start]
    exact hsame.picture
  · simp only [renders, diagnostics_render_start]
    exact congrArg (RenderSetting.kept _) (hsame.report .root)

theorem renders_same_in_every_scope_with_bodies :
    let shown : Condition := ⟨"client.orders.length > 0", false⟩
    let body : List Element := [.boundText (.ofPath "qty"), .boundText (.ofPath "orders[].qty"),
      .repeater (.ofPath "lines") [.boundText ⟨"code", some "shout", none⟩]]
    let template : Element := .container (.frame ⟨none, none, some shown⟩ none)
      [.repeater (.ofPath "client.orders") body,
        .table (.ofPath "client.orders") [.ofPath "Quantity" "qty"]]
    let order : Json := .object [("lines", .list [.object [("code", .text "a")]]),
      ("qty", .number (.whole 2))]
    let view : View := ⟨fun _ => .object [("orders", .list [order, order])], []⟩
    let item : Json := .object [("client", .null), ("code", .text "b"),
      ("lines", .list [.null, .null]), ("qty", .number (.whole 9))]
    let renders (scope : Option Json) := (start view .empty .default).render template scope
    template.SkipsScope ∧ (renders (some item)).1 = (renders none).1 ∧
      (renders (some item)).2.takeDiagnostics.1 = (renders none).2.takeDiagnostics.1 := by
  intro shown body template order view item renders
  have hskips : template.SkipsScope := by decide +kernel
  exact ⟨hskips, renders_same_in_every_scope template hskips view .empty .default (some item) none⟩

end Renderer

end DocTemplate

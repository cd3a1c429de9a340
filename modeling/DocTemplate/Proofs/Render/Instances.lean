import DocTemplate.Proofs.Render.PathMemory
import DocTemplate.Proofs.Template.Position
import DocTemplate.Render.Diagnostic

/-!
# Instances of elements

An element inside a repeater is met once for each item.  An instance is an element at its path with
the scope it is met in; the instances of a template are listed in the order in which they are met,
and what lies inside an element that is not shown is not met at all.
-/

namespace DocTemplate

/-! ## Visibility -/

def Condition.holds (condition : Condition) (view : View) (scope : Option Json) : Bool :=
  Test.evaluate condition.expression view scope != condition.invert

namespace Element

def isShown (element : Element) (view : View) (scope : Option Json) : Bool :=
  element.condition.all (·.holds view scope)

/-- The scopes that the children are met in, one after another: each item under a repeater, the
scope of the element itself otherwise. -/
def innerScopes (element : Element) (view : View) (scope : Option Json) : List (Option Json) :=
  match element with
  | .container (.repeater _ _ binding) _ => (binding.itemsIn view scope).map some
  | .container _ _ => [scope]
  | .leaf _ => []

end Element

/-! ## Instances -/

structure Instance where
  path : ElementPath
  scope : Option Json
  element : Element

namespace Element

mutual

def instancesAt (view : View) (path : ElementPath) (scope : Option Json) : Element → List Instance
  | .leaf kind => [⟨path, scope, .leaf kind⟩]
  | .container kind children =>
      ⟨path, scope, .container kind children⟩ ::
        if (container kind children).isShown view scope then
          ((container kind children).innerScopes view scope).flatMap fun inner =>
            childInstances view path 0 inner children
        else []

def childInstances (view : View) (path : ElementPath) (index : Nat) (scope : Option Json) :
    List Element → List Instance
  | [] => []
  | child :: rest =>
      child.instancesAt view (path.child index) scope ++
        childInstances view path (index + 1) scope rest

end

def instances (template : Element) (view : View) (scope : Option Json) : List Instance :=
  template.instancesAt view .root scope

def scopesAt (view : View) (scope : Option Json) : ElementPath → Element → List (Option Json)
  | [], _ => [scope]
  | index :: rest, element =>
      if element.isShown view scope then
        (element.innerScopes view scope).flatMap fun inner =>
          (element.children[index]?).elim [] (scopesAt view inner rest)
      else []

end Element

/-! ## Causes of diagnostics -/

def Condition.causes (condition : Condition) : List DiagnosticCause :=
  match Test.parse condition.expression with
  | .ok _ => []
  | .error error => [.malformedCondition error]

def DataBinding.causes (binding : DataBinding) : List DiagnosticCause :=
  binding.unknownFormatter?.toList.map .unknownFormatter

/-- A table shows the binding of each of its columns once for each of its rows. -/
def Leaf.causes (view : View) (scope : Option Json) : Leaf → List DiagnosticCause
  | .text _ _ binding => binding.toList.flatMap DataBinding.causes
  | .image _ picture => picture.binding.toList.flatMap DataBinding.causes
  | .table _ columns binding =>
      (binding.itemsIn view scope).flatMap fun _ =>
        columns.flatMap fun column => column.binding.toList.flatMap DataBinding.causes
  | .divider _ _ => []
  | .unknown fields => [.unknownTag (unknownType fields)]

namespace Instance

def isShown (met : Instance) (view : View) : Bool := met.element.isShown view met.scope

def contentCauses (met : Instance) (view : View) : List DiagnosticCause :=
  match met.element with
  | .leaf kind => kind.causes view met.scope
  | .container _ _ => []

def causes (met : Instance) (view : View) : List DiagnosticCause :=
  met.element.condition.toList.flatMap Condition.causes ++
    if met.isShown view then met.contentCauses view else []

def diagnostics (met : Instance) (view : View) : List Diagnostic :=
  (met.causes view).map (⟨met.path, ·⟩)

end Instance

/-! ## Where instances are -/

namespace Element

variable {view : View} {met : Instance}

theorem instancesAt_eq (view : View) (path : ElementPath) (scope : Option Json)
    (element : Element) :
    element.instancesAt view path scope =
      ⟨path, scope, element⟩ ::
        if element.isShown view scope then
          (element.innerScopes view scope).flatMap fun inner =>
            childInstances view path 0 inner element.children
        else [] := by
  cases element with
  | container kind children => rw [instancesAt]; rfl
  | leaf kind => simp [instancesAt, innerScopes]

private theorem childInstances_eq (view : View) (path : ElementPath) (index : Nat)
    (scope : Option Json) (children : List Element) :
    childInstances view path index scope children =
      (children.zipIdx index).flatMap fun (child, position) =>
        child.instancesAt view (path.child position) scope := by
  induction children generalizing index with
  | nil => rfl
  | cons child rest ih => rw [childInstances, ih, List.zipIdx_cons, List.flatMap_cons]

private theorem mem_childInstances {path : ElementPath} {scope : Option Json}
    {children : List Element} :
    met ∈ childInstances view path 0 scope children ↔
      ∃ (index : Nat) (child : Element), children[index]? = some child ∧
        met ∈ child.instancesAt view (path.child index) scope := by
  simp only [childInstances_eq, List.mem_flatMap, Prod.exists, List.mem_zipIdx_iff_getElem?]
  exact exists_comm

theorem mem_scopesAt_cons {scope inner : Option Json} {index : Nat} {rest : ElementPath}
    {element : Element} :
    inner ∈ element.scopesAt view scope (index :: rest) ↔
      element.isShown view scope = true ∧ ∃ middle ∈ element.innerScopes view scope,
        ∃ child, element.children[index]? = some child ∧
          inner ∈ child.scopesAt view middle rest := by
  rw [scopesAt]
  split
  · next hshown =>
      simp only [List.mem_flatMap, hshown, true_and]
      refine exists_congr fun middle => and_congr_right fun _ => ?_
      cases element.children[index]? <;> simp
  · next hhidden => simp [hhidden]

private theorem mem_scopesAt_append {scope inner : Option Json} {path rest : ElementPath}
    {element : Element} :
    inner ∈ element.scopesAt view scope (path ++ rest) ↔
      ∃ target middle, element.find? path = some target ∧
        middle ∈ element.scopesAt view scope path ∧ inner ∈ target.scopesAt view middle rest := by
  induction path generalizing element scope with
  | nil => simp [scopesAt]
  | cons index path ih =>
      rw [List.cons_append, mem_scopesAt_cons]
      constructor
      · rintro ⟨hshown, next, hnext, child, hchild, hinner⟩
        obtain ⟨target, middle, hfind, hmiddle, hinner⟩ := ih.mp hinner
        refine ⟨target, middle, by simp [find?_cons, hchild, hfind], ?_, hinner⟩
        exact mem_scopesAt_cons.mpr ⟨hshown, next, hnext, child, hchild, hmiddle⟩
      · rintro ⟨target, middle, hfind, hmiddle, hinner⟩
        obtain ⟨hshown, next, hnext, child, hchild, hmiddle⟩ := mem_scopesAt_cons.mp hmiddle
        rw [find?_cons, hchild, Option.bind_some] at hfind
        exact ⟨hshown, next, hnext, child, hchild, ih.mpr ⟨target, middle, hfind, hmiddle, hinner⟩⟩

theorem mem_scopesAt_child {scope inner : Option Json} {path : ElementPath} {index : Nat}
    {element : Element} :
    inner ∈ element.scopesAt view scope (path.child index) ↔
      ∃ parent middle, element.find? path = some parent ∧
        middle ∈ element.scopesAt view scope path ∧ parent.isShown view middle = true ∧
          inner ∈ parent.innerScopes view middle ∧
            ∃ child, parent.children[index]? = some child := by
  have hsingle (child : Element) (middle : Option Json) :
      inner ∈ child.scopesAt view middle [] ↔ middle = inner := by
    rw [scopesAt, List.mem_singleton, eq_comm]
  simp only [ElementPath.child, mem_scopesAt_append, mem_scopesAt_cons, hsingle]
  grind

theorem mem_instancesAt {base : ElementPath} {scope : Option Json} {element : Element} :
    met ∈ element.instancesAt view base scope ↔
      ∃ rest, met.path = base ++ rest ∧ element.find? rest = some met.element ∧
        met.scope ∈ element.scopesAt view scope rest := by
  induction element using inductionOnChildren generalizing base scope with
  | step element ih =>
      rw [instancesAt_eq, List.mem_cons]
      -- either the element itself, or something in a child and in one of the inner scopes
      constructor
      · rintro (rfl | hmem)
        · exact ⟨[], (List.append_nil base).symm, rfl, List.mem_singleton.mpr rfl⟩
        · split at hmem
          · next hshown =>
              obtain ⟨inner, hinner, hmem⟩ := List.mem_flatMap.mp hmem
              obtain ⟨index, child, hchild, hmem⟩ := mem_childInstances.mp hmem
              obtain ⟨rest, hpath, hfind, hscope⟩ :=
                (ih child (List.mem_of_getElem? hchild)).mp hmem
              refine ⟨index :: rest, ?_, ?_, ?_⟩
              · simpa [ElementPath.child] using hpath
              · simp [find?_cons, hchild, hfind]
              · exact mem_scopesAt_cons.mpr ⟨hshown, inner, hinner, child, hchild, hscope⟩
          · cases hmem
      · rintro ⟨_ | ⟨index, rest⟩, hpath, hfind, hscope⟩
        · left
          obtain ⟨path, scope', found⟩ := met
          obtain rfl : element = found := Option.some.inj hfind
          obtain rfl : scope' = scope := List.mem_singleton.mp hscope
          obtain rfl : path = base := hpath.trans (List.append_nil base)
          rfl
        · right
          obtain ⟨hshown, inner, hinner, child, hchild, hscope⟩ := mem_scopesAt_cons.mp hscope
          rw [if_pos hshown]
          refine List.mem_flatMap.mpr ⟨inner, hinner, mem_childInstances.mpr ?_⟩
          refine ⟨index, child, hchild, ?_⟩
          rw [find?_cons, hchild, Option.bind_some] at hfind
          refine (ih child (List.mem_of_getElem? hchild)).mpr ⟨rest, ?_, hfind, hscope⟩
          simpa [ElementPath.child] using hpath

theorem find?_of_mem_instances {template : Element} {scope : Option Json}
    (h : met ∈ template.instances view scope) : template.find? met.path = some met.element := by
  obtain ⟨rest, hpath, hfind, -⟩ := mem_instancesAt.mp h
  rw [hpath]
  exact hfind

theorem enclosing_of_mem_instances {template : Element} {scope : Option Json}
    {parent : ElementPath} {index : Nat} (h : met ∈ template.instances view scope)
    (hpath : met.path = parent.child index) :
    ∃ around ∈ template.instances view scope, around.path = parent ∧
      around.isShown view = true ∧ met.scope ∈ around.element.innerScopes view around.scope := by
  obtain ⟨rest, hrest, -, hscope⟩ := mem_instancesAt.mp h
  obtain rfl : rest = parent.child index := hrest.symm.trans hpath
  obtain ⟨element, scope', hfind, hscope', hshown, hinner, -⟩ := mem_scopesAt_child.mp hscope
  exact ⟨⟨parent, scope', element⟩, mem_instancesAt.mpr ⟨parent, rfl, hfind, hscope'⟩, rfl,
    hshown, hinner⟩

end Element

end DocTemplate

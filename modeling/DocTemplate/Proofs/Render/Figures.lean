import DocTemplate.Proofs.Render.Picture
import Mathlib.Data.List.Basic

/-!
# Figures of a picture

The nodes of a rendered tree in document order.  However containers and repeaters are nested, the
figures among the nodes are those of the leaves that are met and shown, one after another.
-/

namespace DocTemplate

namespace Rendered

/-! ## Nodes in document order -/

mutual

def nodes : Rendered → List Rendered
  | .box kind children => .box kind children :: nodesOf children
  | .figure kind => [.figure kind]

def nodesOf : List Rendered → List Rendered
  | [] => []
  | node :: rest => node.nodes ++ nodesOf rest

end

theorem nodes_eq (node : Rendered) : node.nodes = node :: nodesOf node.children := by
  cases node <;> rfl

theorem nodesOf_eq_flatMap (trees : List Rendered) : nodesOf trees = trees.flatMap nodes := by
  induction trees with
  | nil => rfl
  | cons node rest ih => rw [nodesOf, ih, List.flatMap_cons]

theorem nodesOf_append (first second : List Rendered) :
    nodesOf (first ++ second) = nodesOf first ++ nodesOf second := by
  simp only [nodesOf_eq_flatMap, List.flatMap_append]

theorem nodesOf_flatten (instances : List (List Rendered)) :
    nodesOf instances.flatten = instances.flatMap nodesOf := by
  induction instances with
  | nil => rfl
  | cons trees rest ih => rw [List.flatten_cons, nodesOf_append, ih, List.flatMap_cons]

/-! ## Figures -/

def figure? : Rendered → Option Figure
  | .box _ _ => none
  | .figure kind => some kind

def figuresOf (trees : List Rendered) : List Figure := (nodesOf trees).filterMap figure?

theorem figuresOf_append (first second : List Rendered) :
    figuresOf (first ++ second) = figuresOf first ++ figuresOf second := by
  rw [figuresOf, nodesOf_append, List.filterMap_append, ← figuresOf, ← figuresOf]

theorem figuresOf_flatten (instances : List (List Rendered)) :
    figuresOf instances.flatten = instances.flatMap figuresOf := by
  rw [figuresOf, nodesOf_flatten, List.filterMap_flatMap]
  rfl

theorem figuresOf_box (kind : Box) (children : List Rendered) :
    figuresOf [.box kind children] = figuresOf children := by
  rw [figuresOf, nodesOf, nodes, nodesOf, List.append_nil]
  exact List.filterMap_cons_none rfl

@[simp] theorem figuresOf_figure (kind : Figure) : figuresOf [.figure kind] = [kind] := rfl

end Rendered

namespace RenderSetting

open Rendered (figuresOf figuresOf_append figuresOf_flatten figuresOf_box)

variable {setting : RenderSetting} {scope : Option Json}

/-! ## Figures of containers -/

private theorem figuresOf_spliced (rendered : Option Rendered) :
    figuresOf (spliced rendered) = figuresOf rendered.toList := by
  cases rendered with
  | none => rfl
  | some node =>
      cases node with
      | figure kind => rfl
      | box kind children =>
          cases kind with
          | fragment => exact (figuresOf_box .fragment children).symm
          | _ => rfl

theorem figuresOf_repeated (style : Option Object) (instances : List (List Rendered)) :
    figuresOf (repeated style instances) = instances.flatMap figuresOf := by
  rw [repeated]
  split
  · exact figuresOf_flatten instances
  · induction instances with
    | nil => rfl
    | cons trees rest ih =>
        rw [List.map_cons, ← List.singleton_append, figuresOf_append, ih, figuresOf_box,
          List.flatMap_cons]

private theorem figuresOf_boxNode (kind : Container) (instances : List (List Rendered)) :
    figuresOf [boxNode kind instances] = instances.flatMap figuresOf := by
  cases kind with
  | repeater style condition binding =>
      rw [boxNode, figuresOf_box, figuresOf_repeated]
  | _ => rw [boxNode, figuresOf_box, figuresOf_flatten]

/-! ## Figures of instances -/

def leafFigure? (setting : RenderSetting) (scope : Option Json) (kind : Leaf) : Option Figure :=
  (setting.leafNode scope kind).bind Rendered.figure?

/-- The figure of an instance; none for a container, and none where the instance is not shown. -/
def figureOf? (setting : RenderSetting) (met : Instance) : Option Figure :=
  match met.element with
  | .leaf kind =>
      if met.isShown setting.view then setting.leafFigure? met.scope kind else none
  | .container _ _ => none

theorem figureOf?_leaf (path : ElementPath) (scope : Option Json) (kind : Leaf) :
    setting.figureOf? ⟨path, scope, .leaf kind⟩ =
      if (Element.leaf kind).isShown setting.view scope then setting.leafFigure? scope kind
      else none := rfl

private theorem figuresOf_leafNode (kind : Leaf) :
    figuresOf (setting.leafNode scope kind).toList = (setting.leafFigure? scope kind).toList := by
  cases kind <;> rfl

private theorem figuresOf_pictures {children : List Element}
    (h : ∀ child ∈ children, ∀ path,
      figuresOf (setting.picture scope child).toList =
        (child.instancesAt setting.view path scope).filterMap setting.figureOf?)
    (path : ElementPath) (index : Nat) :
    figuresOf (setting.pictures scope children) =
      (Element.childInstances setting.view path index scope children).filterMap
        setting.figureOf? := by
  induction children generalizing index with
  | nil => rfl
  | cons child rest ih =>
      obtain ⟨hchild, hrest⟩ := List.forall_mem_cons.mp h
      rw [pictures, figuresOf_append, figuresOf_spliced, hchild (path.child index),
        ih hrest (index + 1), Element.childInstances, List.filterMap_append]

theorem figuresOf_picture (element : Element) (path : ElementPath) (scope : Option Json) :
    figuresOf (setting.picture scope element).toList =
      (element.instancesAt setting.view path scope).filterMap setting.figureOf? := by
  induction element using Element.inductionOnChildren generalizing path scope with
  | step element ih =>
      cases element with
      | leaf kind =>
          rw [picture, Element.instancesAt, List.filterMap_eq_flatMap_toList,
            List.flatMap_singleton, figureOf?_leaf]
          split
          · exact figuresOf_leafNode kind
          · rfl
      | container kind children =>
          rw [picture, Element.instancesAt, List.filterMap_cons]
          change _ = List.filterMap _ (if _ then _ else _)
          split
          · rw [Option.toList_some, figuresOf_boxNode, List.filterMap_flatMap, List.flatMap_map]
            refine congrArg List.flatten (List.map_congr_left fun inner _ => ?_)
            exact figuresOf_pictures (fun child hchild path => ih child hchild path inner) path 0
          · rfl

end RenderSetting

end DocTemplate

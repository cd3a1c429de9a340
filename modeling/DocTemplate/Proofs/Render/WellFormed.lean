import DocTemplate.Proofs.Render.Figures
import DocTemplate.Proofs.Render.Reuse
import Mathlib.Data.List.Forall2

/-!
# Well-formed output

A rendered tree has a fragment at its top or nowhere, and its tables are filled: one row for each
item that is bound, and one cell in each row for each column.
-/

namespace DocTemplate

namespace Rendered

/-! ## Fragments -/

def isFragment : Rendered → Bool
  | .box .fragment _ => true
  | _ => false

def FragmentFree (trees : List Rendered) : Prop :=
  ∀ node ∈ nodesOf trees, node.isFragment = false

variable {node : Rendered} {trees first second : List Rendered}

theorem fragmentFree_nil : FragmentFree [] := fun _ hnode => nomatch hnode

private theorem fragmentFree_append :
    FragmentFree (first ++ second) ↔ FragmentFree first ∧ FragmentFree second := by
  rw [FragmentFree, nodesOf_append, List.forall_mem_append, FragmentFree, FragmentFree]

theorem fragmentFree_cons :
    FragmentFree (node :: trees) ↔
      node.isFragment = false ∧ FragmentFree node.children ∧ FragmentFree trees := by
  rw [FragmentFree, nodesOf, nodes_eq, List.cons_append, List.forall_mem_cons,
    List.forall_mem_append, FragmentFree, FragmentFree]

theorem fragmentFree_flatten {instances : List (List Rendered)} :
    FragmentFree instances.flatten ↔ ∀ trees ∈ instances, FragmentFree trees := by
  simp only [FragmentFree, nodesOf_flatten, List.mem_flatMap]
  exact ⟨fun h trees htrees node hnode => h node ⟨trees, htrees, hnode⟩,
    fun h node ⟨trees, htrees, hnode⟩ => h trees htrees node hnode⟩

end Rendered

namespace RenderSetting

open Rendered

variable {setting : RenderSetting} {scope : Option Json}

private theorem fragmentFree_spliced {rendered : Option Rendered}
    (h : ∀ node ∈ rendered, FragmentFree node.children) : FragmentFree (spliced rendered) := by
  cases rendered with
  | none => exact fragmentFree_nil
  | some node =>
      have hchildren := h node rfl
      cases node with
      | figure kind => exact fragmentFree_cons.mpr ⟨rfl, hchildren, fragmentFree_nil⟩
      | box kind children =>
          -- only here does it matter that a fragment is given up for what is in it
          cases kind with
          | fragment => exact hchildren
          | _ => exact fragmentFree_cons.mpr ⟨rfl, hchildren, fragmentFree_nil⟩

private theorem fragmentFree_pictures {children : List Element}
    (h : ∀ child ∈ children, ∀ node ∈ setting.picture scope child, FragmentFree node.children) :
    FragmentFree (setting.pictures scope children) := by
  induction children with
  | nil => exact fragmentFree_nil
  | cons child rest ih =>
      obtain ⟨hchild, hrest⟩ := List.forall_mem_cons.mp h
      exact fragmentFree_append.mpr ⟨fragmentFree_spliced hchild, ih hrest⟩

private theorem fragmentFree_repeated (style : Option Object) {instances : List (List Rendered)}
    (h : ∀ trees ∈ instances, FragmentFree trees) : FragmentFree (repeated style instances) := by
  rw [repeated]
  split
  · exact fragmentFree_flatten.mpr h
  · induction instances with
    | nil => exact fragmentFree_nil
    | cons trees rest ih =>
        obtain ⟨htrees, hrest⟩ := List.forall_mem_cons.mp h
        exact fragmentFree_cons.mpr ⟨rfl, htrees, ih hrest⟩

private theorem fragmentFree_boxNode (kind : Container) {instances : List (List Rendered)}
    (h : ∀ trees ∈ instances, FragmentFree trees) :
    FragmentFree (boxNode kind instances).children := by
  cases kind with
  | repeater style condition binding => exact fragmentFree_repeated style h
  | _ => exact fragmentFree_flatten.mpr h

theorem fragmentFree_picture (element : Element) (scope : Option Json) :
    ∀ node ∈ setting.picture scope element, FragmentFree node.children := by
  induction element using Element.inductionOnChildren generalizing scope with
  | step element ih =>
      intro node hnode
      cases element with
      | leaf kind =>
          rw [picture] at hnode
          split at hnode
          · cases kind <;> cases hnode <;> exact fragmentFree_nil
          · cases hnode
      | container kind children =>
          rw [picture] at hnode
          split at hnode
          · cases hnode
            refine fragmentFree_boxNode kind fun trees htrees => ?_
            obtain ⟨inner, -, rfl⟩ := List.mem_map.mp htrees
            exact fragmentFree_pictures fun child hchild => ih child hchild inner
          · cases hnode

private theorem isFragment_boxNode (kind : Container) (instances : List (List Rendered)) :
    (boxNode kind instances).isFragment = true ↔ kind.tag = .repeater := by
  cases kind <;> simp [boxNode, isFragment, Container.tag]

theorem isFragment_picture (element : Element) :
    (∃ node ∈ setting.picture scope element, node.isFragment = true) ↔
      element.tag? = some .repeater ∧ element.isShown setting.view scope = true := by
  cases element with
  | leaf kind =>
      rw [picture]
      split
      · cases kind <;> simp [leafNode, isFragment, Element.tag?, Leaf.tag?]
      · simp [*]
  | container kind children =>
      rw [picture]
      split
      · simp [*, isFragment_boxNode, Element.tag?]
      · simp [*]

end RenderSetting

/-! ## Tables -/

structure TableSource where
  columns : List Column
  items : List Json

def Instance.tableSource? (met : Instance) (view : View) : Option TableSource :=
  match met.element with
  | .leaf (.table _ columns binding) =>
      if met.isShown view then some ⟨columns, binding.itemsIn view met.scope⟩ else none
  | _ => none

private theorem Instance.tableSource?_table (path : ElementPath) (scope : Option Json)
    (attributes : Attributes) (columns : List Column) (binding : DataBinding) (view : View) :
    tableSource? ⟨path, scope, .leaf (.table attributes columns binding)⟩ view =
      if (Element.leaf (.table attributes columns binding)).isShown view scope then
        some ⟨columns, binding.itemsIn view scope⟩
      else none := rfl

structure TableGrid where
  headers : List TableHeader
  rows : List (List String)

def Figure.grid? : Figure → Option TableGrid
  | .table _ _ headers rows => some ⟨headers, rows⟩
  | _ => none

def Rendered.gridsOf (trees : List Rendered) : List TableGrid :=
  (figuresOf trees).filterMap Figure.grid?

/-- A header for each column, a row for each item, and in each row a cell for each column. -/
structure TableSource.Fills (source : TableSource) (grid : TableGrid) : Prop where
  headers : grid.headers = source.columns.map RenderSetting.header
  rows : grid.rows.length = source.items.length
  cells : ∀ row ∈ grid.rows, row.length = source.columns.length

namespace RenderSetting

variable {setting : RenderSetting}

private theorem fills_rowsOf (scope : Option Json) (columns : List Column) (binding : DataBinding) :
    TableSource.Fills ⟨columns, binding.itemsIn setting.view scope⟩
      ⟨columns.map header, setting.rowsOf scope columns binding⟩ where
  headers := rfl
  rows := List.length_map _
  cells row hrow := by
    obtain ⟨item, -, rfl⟩ := List.mem_map.mp hrow
    exact List.length_map _

private theorem fills_figureOf? (met : Instance) :
    Option.Rel TableSource.Fills (met.tableSource? setting.view)
      ((setting.figureOf? met).bind Figure.grid?) := by
  obtain ⟨path, scope, element⟩ := met
  cases element with
  | container kind children => exact .none
  | leaf kind =>
      rw [figureOf?_leaf]
      cases kind with
      | table attributes columns binding =>
          rw [Instance.tableSource?_table]
          split
          · exact .some (fills_rowsOf scope columns binding)
          · exact .none
      | _ => split <;> exact .none

theorem fills_picture (element : Element) (scope : Option Json) :
    List.Forall₂ TableSource.Fills
      ((element.instances setting.view scope).filterMap (·.tableSource? setting.view))
      (Rendered.gridsOf (setting.picture scope element).toList) := by
  rw [Rendered.gridsOf, figuresOf_picture element .root scope, List.filterMap_filterMap]
  have hsame : List.Forall₂ Eq (element.instances setting.view scope)
      (element.instances setting.view scope) := List.forall₂_same.mpr fun _ _ => rfl
  refine List.rel_filterMap ?_ hsame
  rintro met _ rfl
  exact fills_figureOf? met

end RenderSetting

namespace Renderer

/-- A fragment is at the top of a rendered tree exactly if the element is a repeater that is shown,
and it is never further down.  The tables in the tree are those that are met and shown, one after
another, each filled from the items that its binding gives where it is met. -/
theorem rendered_is_well_formed (view : View) (tokens : DesignTokens) (options : RenderOptions)
    (calls : List RenderCall) (element : Element) (scope : Option Json) :
    let rendered := (((start view tokens options).after calls).render element scope).1
    (∀ node ∈ rendered, Rendered.FragmentFree node.children) ∧
      ((∃ node ∈ rendered, node.isFragment = true) ↔
        element.tag? = some .repeater ∧ element.isShown view scope = true) ∧
      List.Forall₂ TableSource.Fills
        ((element.instances view scope).filterMap (·.tableSource? view))
        (Rendered.gridsOf rendered.toList) := by
  intro rendered
  have hpicture : rendered = RenderSetting.picture ⟨view, tokens, options⟩ scope element :=
    fst_render_after view tokens options calls element scope
  have hfragment := @RenderSetting.isFragment_picture ⟨view, tokens, options⟩ scope element
  have htables := @RenderSetting.fills_picture ⟨view, tokens, options⟩ element scope
  rw [← hpicture] at hfragment htables
  exact ⟨hpicture ▸ RenderSetting.fragmentFree_picture element scope, hfragment, htables⟩

end Renderer

end DocTemplate

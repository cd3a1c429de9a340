import DocTemplate.Proofs.Arena.Growth
import DocTemplate.Proofs.Template.Position
import Mathlib.Data.List.Basic

/-!
# Well-formed arenas

In a well-formed arena children stand in front of their parent and leaves have no children, so the
tree below a node can be read off node by node.  A map that carries nodes over to another arena
together with their children carries the trees over as well; growth is the case in which every node
stays in its place.  A tree that is stored is read back as it was.
-/

namespace DocTemplate

structure Node.Fits (node : Node) (position : NodeId) : Prop where
  children_lt : ∀ child ∈ node.children, child < position
  leaf : node.shape.isContainer = false → node.children = []

namespace Arena

def WellFormed (arena : Arena) : Prop :=
  ∀ id node, arena.node? id = some node → node.Fits id

theorem wellFormed_empty : empty.WellFormed := by
  intro id node h
  simp [node?, empty] at h

theorem node?_isSome_iff {arena : Arena} {id : NodeId} :
    (∃ node, arena.node? id = some node) ↔ id < arena.size := by
  simp [node?, size, Array.getElem?_eq_some_iff]

theorem childrenOf_of_node? {arena : Arena} {id : NodeId} {node : Node}
    (h : arena.node? id = some node) : arena.childrenOf id = node.children := by
  simp [childrenOf, h]

theorem shapeOf_of_node? {arena : Arena} {id : NodeId} {node : Node}
    (h : arena.node? id = some node) : arena.shapeOf id = node.shape := by
  simp [shapeOf, h]

namespace WellFormed

variable {arena : Arena}

theorem childrenOf_lt (h : arena.WellFormed) {id child : NodeId}
    (hchild : child ∈ arena.childrenOf id) : child < id := by
  cases hnode : arena.node? id with
  | none => simp [childrenOf, hnode] at hchild
  | some node =>
      rw [childrenOf_of_node? hnode] at hchild
      exact (h id node hnode).children_lt child hchild

theorem childrenOf_leaf (h : arena.WellFormed) {id : NodeId}
    (hleaf : (arena.shapeOf id).isContainer = false) : arena.childrenOf id = [] := by
  cases hnode : arena.node? id with
  | none => simp [childrenOf, hnode]
  | some node =>
      rw [childrenOf_of_node? hnode]
      rw [shapeOf_of_node? hnode] at hleaf
      exact (h id node hnode).leaf hleaf

theorem isContainer_of_child (h : arena.WellFormed) {id child : NodeId} {index : Nat}
    (hchild : (arena.childrenOf id)[index]? = some child) :
    (arena.shapeOf id).isContainer = true := by
  by_contra hleaf
  rw [h.childrenOf_leaf (Bool.eq_false_iff.mpr hleaf)] at hchild
  simp at hchild

end WellFormed

/-- Children stand in front of their parent; a leaf may have some, which no tree will show. -/
def ChildrenFirst (arena : Arena) : Prop := ∀ id, ∀ child ∈ arena.childrenOf id, child < id

theorem WellFormed.childrenFirst {arena : Arena} (h : arena.WellFormed) : arena.ChildrenFirst :=
  fun _ _ hchild => h.childrenOf_lt hchild

theorem childrenFirst_of_lt_size {arena : Arena}
    (h : ∀ id < arena.size, ∀ child ∈ arena.childrenOf id, child < id) : arena.ChildrenFirst := by
  intro id child hchild
  cases hnode : arena.node? id with
  | none => simp [childrenOf, hnode] at hchild
  | some node => exact h id (node?_isSome_iff.mp ⟨node, hnode⟩) child hchild

/-! ## Trees below nodes -/

theorem map_followed {α : Type} {arena : Arena} (h : arena.ChildrenFirst) (id : NodeId)
    (read : NodeId → α) :
    ((arena.followed id).map fun ⟨child, _⟩ => read child) = (arena.childrenOf id).map read := by
  have hlt := h id
  rw [followed]
  generalize arena.childrenOf id = children at hlt
  induction children with
  | nil => rfl
  | cons child rest ih =>
      have hchild : child < id := hlt child (by simp)
      have hrest := ih fun other hother => hlt other (by simp [hother])
      simpa [List.filterMap_cons, hchild] using hrest

theorem build_eq {arena : Arena} (h : arena.ChildrenFirst) (id : NodeId) :
    arena.build id = (arena.shapeOf id).element ((arena.childrenOf id).map arena.build) := by
  rw [build, map_followed h]

theorem shape_build {arena : Arena} (h : arena.WellFormed) (id : NodeId) :
    (arena.build id).shape = arena.shapeOf id := by
  rw [build_eq h.childrenFirst, Shape.shape_element]

theorem children_build {arena : Arena} (h : arena.WellFormed) (id : NodeId) :
    (arena.build id).children = (arena.childrenOf id).map arena.build := by
  rw [build_eq h.childrenFirst, Shape.children_element]
  intro hleaf
  rw [h.childrenOf_leaf hleaf, List.map_nil]

theorem isContainer_build {arena : Arena} (h : arena.WellFormed) (id : NodeId) :
    (arena.build id).isContainer = (arena.shapeOf id).isContainer := by
  rw [← Element.isContainer_shape, shape_build h]

/-! ## Paths -/

theorem find?_build {arena : Arena} (h : arena.WellFormed) (root : NodeId)
    (path : ElementPath) :
    (arena.build root).find? path = (arena.resolve? root path).map arena.build := by
  induction path generalizing root with
  | nil => rfl
  | cons index rest ih =>
      rw [Element.find?_cons, children_build h, List.getElem?_map, resolve?]
      cases (arena.childrenOf root)[index]? with
      | none => rfl
      | some child => exact ih child

theorem resolve?_lt {arena : Arena} (h : arena.WellFormed) {root id : NodeId}
    {path : ElementPath} (hroot : root < arena.size)
    (hresolve : arena.resolve? root path = some id) : id < arena.size := by
  induction path generalizing root with
  | nil =>
      cases hresolve
      exact hroot
  | cons index rest ih =>
      obtain ⟨child, hchild, hrest⟩ := Option.bind_eq_some_iff.mp hresolve
      have hlt := h.childrenOf_lt (List.mem_of_getElem? hchild)
      exact ih (Nat.lt_trans hlt hroot) hrest

theorem childCountAt_build {arena : Arena} (h : arena.WellFormed) (root : NodeId)
    (path : ElementPath) :
    ((arena.resolve? root path).map fun id => (arena.childrenOf id).length).getD 0 =
      (arena.build root).childCountAt path := by
  rw [Element.childCountAt, find?_build h]
  cases arena.resolve? root path with
  | none => rfl
  | some id => simp [children_build h]

/-! ## Carrying nodes over -/

/-- `rename` takes the kept nodes of one arena to nodes of another, children to children. -/
structure Carries (rename : NodeId → NodeId) (keep : NodeId → Prop) (before after : Arena) :
    Prop where
  closed : ∀ id, keep id → ∀ child ∈ before.childrenOf id, keep child
  shape : ∀ id, keep id → after.shapeOf (rename id) = before.shapeOf id
  children : ∀ id, keep id → after.childrenOf (rename id) = (before.childrenOf id).map rename

theorem build_of_carries {before after : Arena} {rename : NodeId → NodeId}
    {keep : NodeId → Prop} (hcarries : Carries rename keep before after)
    (hbefore : before.ChildrenFirst) (hafter : after.ChildrenFirst) {id : NodeId}
    (hid : keep id) : after.build (rename id) = before.build id := by
  induction id using Nat.strongRecOn with
  | _ id ih =>
      rw [build_eq hafter, build_eq hbefore, hcarries.shape id hid, hcarries.children id hid,
        List.map_map]
      congr 1
      apply List.map_congr_left
      intro child hchild
      exact ih child (hbefore id child hchild) (hcarries.closed id hid child hchild)

namespace Extends

variable {before after : Arena}

theorem carries (h : after.Extends before) (hbefore : before.WellFormed) :
    Carries (fun id => id) (· < before.size) before after where
  closed _ hid _ hchild := Nat.lt_trans (hbefore.childrenOf_lt hchild) hid
  shape _ hid := h.shapeOf hid
  children _ hid := by rw [h.childrenOf hid, List.map_id']

theorem build (h : after.Extends before) (hbefore : before.WellFormed)
    (hafter : after.WellFormed) {id : NodeId} (hid : id < before.size) :
    after.build id = before.build id :=
  build_of_carries (h.carries hbefore) hbefore.childrenFirst hafter.childrenFirst hid

theorem resolve? (h : after.Extends before) (hbefore : before.WellFormed) {root : NodeId}
    (hroot : root < before.size) (path : ElementPath) :
    after.resolve? root path = before.resolve? root path := by
  induction path generalizing root with
  | nil => rfl
  | cons index rest ih =>
      rw [Arena.resolve?, Arena.resolve?, h.childrenOf hroot]
      apply Option.bind_congr
      intro child hchild
      have hlt := hbefore.childrenOf_lt (List.mem_of_getElem? hchild)
      exact ih (Nat.lt_trans hlt hroot)

end Extends

/-! ## Allocation -/

theorem wellFormed_push {arena : Arena} {node : Node} (h : arena.WellFormed)
    (hnode : node.Fits arena.size) : (arena.push node).WellFormed := by
  intro id other hother
  rw [node?, push, Array.getElem?_push] at hother
  split at hother
  · next heq =>
      cases hother
      rw [heq]
      exact hnode
  · exact h id other hother

theorem node?_push_size (arena : Arena) (node : Node) :
    (arena.push node).node? arena.size = some node := by
  simp [node?, push, size]

@[simp] theorem size_push (arena : Arena) (node : Node) :
    (arena.push node).size = arena.size + 1 := by
  simp [push, size]

theorem build_push {arena : Arena} {node : Node} (h : arena.WellFormed)
    (hnode : node.Fits arena.size) :
    (arena.push node).build arena.size = node.shape.element (node.children.map arena.build) := by
  have hafter := wellFormed_push h hnode
  have hnew := node?_push_size arena node
  rw [build_eq hafter.childrenFirst, shapeOf_of_node? hnew, childrenOf_of_node? hnew]
  congr 1
  apply List.map_congr_left
  intro child hchild
  exact (Extends.push arena node).build h hafter (hnode.children_lt child hchild)

/-! ## Trees held by an arena -/

structure Holds (arena : Arena) (ids : List NodeId) (elements : List Element) : Prop where
  wellFormed : arena.WellFormed
  ids_lt : ∀ id ∈ ids, id < arena.size
  build : ids.map arena.build = elements

namespace Holds

variable {arena : Arena} {ids ids' : List NodeId} {elements elements' : List Element}

theorem nil (h : arena.WellFormed) : arena.Holds [] [] := ⟨h, by simp, rfl⟩

theorem single (h : arena.WellFormed) {id : NodeId} (hid : id < arena.size) :
    arena.Holds [id] [arena.build id] := ⟨h, by simpa using hid, rfl⟩

theorem childrenOf (h : arena.WellFormed) {id : NodeId} (hid : id < arena.size) :
    arena.Holds (arena.childrenOf id) (arena.build id).children where
  wellFormed := h
  ids_lt _ hchild := Nat.lt_trans (h.childrenOf_lt hchild) hid
  build := (children_build h id).symm

theorem lt_size {id : NodeId} {element : Element} (h : arena.Holds [id] [element]) :
    id < arena.size :=
  h.ids_lt id (by simp)

theorem build_single {id : NodeId} {element : Element} (h : arena.Holds [id] [element]) :
    arena.build id = element := by
  simpa using h.build

theorem grow {after : Arena} (h : arena.Holds ids elements) (hgrowth : after.Extends arena)
    (hafter : after.WellFormed) : after.Holds ids elements where
  wellFormed := hafter
  ids_lt id hid := Nat.lt_of_lt_of_le (h.ids_lt id hid) hgrowth.size_le
  build := by
    rw [← h.build]
    apply List.map_congr_left
    intro id hid
    exact hgrowth.build h.wellFormed hafter (h.ids_lt id hid)

theorem append (h : arena.Holds ids elements) (h' : arena.Holds ids' elements') :
    arena.Holds (ids ++ ids') (elements ++ elements') where
  wellFormed := h.wellFormed
  ids_lt id hid := (List.mem_append.mp hid).elim (h.ids_lt id) (h'.ids_lt id)
  build := by rw [List.map_append, h.build, h'.build]

theorem of_subset (h : arena.Holds ids elements) (hsubset : ids' ⊆ ids)
    (hbuild : ids'.map arena.build = elements') : arena.Holds ids' elements' :=
  ⟨h.wellFormed, fun id hid => h.ids_lt id (hsubset hid), hbuild⟩

theorem set (h : arena.Holds ids elements) {id : NodeId} {element : Element} (index : Nat)
    (h' : arena.Holds [id] [element]) :
    arena.Holds (ids.set index id) (elements.set index element) where
  wellFormed := h.wellFormed
  ids_lt other hother := by
    rcases List.mem_or_eq_of_mem_set hother with hmem | rfl
    · exact h.ids_lt other hmem
    · exact h'.lt_size
  build := by rw [List.map_set, h.build, h'.build_single]

theorem push (shape : Shape) (h : arena.Holds ids elements)
    (hleaf : shape.isContainer = false → ids = []) :
    (arena.push ⟨shape, ids⟩).Holds [arena.size] [shape.element elements] where
  wellFormed := wellFormed_push h.wellFormed ⟨h.ids_lt, hleaf⟩
  ids_lt := by simp
  build := by
    rw [List.map_singleton, build_push h.wellFormed ⟨h.ids_lt, hleaf⟩, h.build]

end Holds

mutual

theorem holds_insertTree : (element : Element) → {arena : Arena} → arena.WellFormed →
    ((insertTree element).run arena).2.Holds [((insertTree element).run arena).1] [element]
  | .container kind children, _, h => (holds_insertTrees children h).push (.container kind) nofun
  | .leaf kind, _, h => (Holds.nil h).push (.leaf kind) fun _ => rfl

theorem holds_insertTrees : (elements : List Element) → {arena : Arena} → arena.WellFormed →
    ((insertTrees elements).run arena).2.Holds ((insertTrees elements).run arena).1 elements
  | [], _, h => .nil h
  | child :: rest, _, h => by
      have hchild := holds_insertTree child h
      have hrest := holds_insertTrees rest hchild.wellFormed
      exact (hchild.grow (extends_insertTrees rest _) hrest.wellFormed).append hrest

end

end Arena

end DocTemplate

import DocTemplate.Proofs.Arena.Reachability
import Mathlib.Data.List.Perm.Subperm

/-!
# Traversals that look up every node

Two ways through an arena that do not know its order: a recursion into the children of a node, and a
loop over a stack of nodes that are still to be marked.  Both look up each node they come to and
fail where there is none, and neither is sure to end.  In a well-formed arena they end without
failing, with what trees and compaction are made of.
-/

namespace DocTemplate.Arena

variable {arena : Arena} {roots : List NodeId}

/-! ## Recursion -/

/-- Results of the children are combined at each node, at most `depth` levels deep. -/
def fold? {α : Type} (combine : Shape → List α → α) (arena : Arena) : Nat → NodeId → Option α
  | 0, _ => none
  | depth + 1, id => do
      let node ← arena.node? id
      let results ← node.children.mapM (fold? combine arena depth)
      return combine node.shape results

private theorem mapM_eq_some_map {α β : Type} {read? : α → Option β} {read : α → β} {items : List α}
    (h : ∀ item ∈ items, read? item = some (read item)) :
    items.mapM read? = some (items.map read) := by
  induction items with
  | nil => rfl
  | cons item rest ih =>
      obtain ⟨hitem, hrest⟩ := List.forall_mem_cons.mp h
      simp [List.mapM_cons, hitem, ih hrest]

theorem fold?_eq_some {α : Type} {combine : Shape → List α → α} {read : NodeId → α}
    (h : arena.WellFormed)
    (hread : ∀ id, read id = combine (arena.shapeOf id) ((arena.childrenOf id).map read))
    {id : NodeId} (hid : id < arena.size) {depth : Nat} (hdepth : id < depth) :
    fold? combine arena depth id = some (read id) := by
  induction depth generalizing id with
  | zero => exact absurd hdepth (Nat.not_lt_zero id)
  | succ depth ih =>
      obtain ⟨node, hnode⟩ := node?_isSome_iff.mpr hid
      have hchildren : node.children.mapM (fold? combine arena depth) =
          some (node.children.map read) := by
        apply mapM_eq_some_map
        intro child hchild
        have hlt := (h id node hnode).children_lt child hchild
        exact ih (Nat.lt_trans hlt hid) (Nat.lt_of_lt_of_le hlt (Nat.lt_succ_iff.mp hdepth))
      rw [hread, fold?, hnode, shapeOf_of_node? hnode, childrenOf_of_node? hnode]
      simp only [Option.bind_eq_bind, Option.bind_some, hchildren]
      rfl

/-! ## Marking -/

/-- The marked nodes after the loop.  A node is taken off the stack; when it is met for the first
time it is marked, and its children go on the stack. -/
def collect? (arena : Arena) : (steps : Nat) → (stack marked : List NodeId) → Option (List NodeId)
  | 0, _, _ => none
  | _ + 1, [], marked => some marked
  | steps + 1, id :: stack, marked =>
      if id ∈ marked then collect? arena steps stack marked
      else do
        let node ← arena.node? id
        collect? arena steps (node.children.reverse ++ stack) (id :: marked)

/-- What the loop keeps: a root or a child of a marked node is marked or on the stack, and roots
lead to all of these. -/
structure Marking (arena : Arena) (roots stack marked : List NodeId) : Prop where
  nodup : marked.Nodup
  reachable : ∀ id, id ∈ marked ∨ id ∈ stack → arena.Reachable roots id
  roots : ∀ id ∈ roots, id ∈ marked ∨ id ∈ stack
  children : ∀ id ∈ marked, ∀ child ∈ arena.childrenOf id, child ∈ marked ∨ child ∈ stack

namespace Marking

variable {stack marked : List NodeId} {id : NodeId}

theorem start (arena : Arena) (roots : List NodeId) :
    arena.Marking roots roots.reverse [] where
  nodup := .nil
  reachable id hid := .root (by simpa using hid)
  roots id hid := .inr (by simpa using hid)
  children _ hid := nomatch hid

private theorem met (h : arena.Marking roots (id :: stack) marked) (hid : id ∈ marked) :
    arena.Marking roots stack marked := by
  have hkeep (other : NodeId) (hother : other ∈ marked ∨ other ∈ id :: stack) :
      other ∈ marked ∨ other ∈ stack := by
    rcases hother with hother | hother
    · exact .inl hother
    · rcases List.mem_cons.mp hother with rfl | hother
      · exact .inl hid
      · exact .inr hother
  exact ⟨h.nodup,
    fun other hother => h.reachable other (hother.imp_right (List.mem_cons_of_mem id)),
    fun other hother => hkeep other (h.roots other hother),
    fun other hother child hchild => hkeep child (h.children other hother child hchild)⟩

private theorem mark (h : arena.Marking roots (id :: stack) marked) (hid : id ∉ marked) :
    arena.Marking roots ((arena.childrenOf id).reverse ++ stack) (id :: marked) := by
  have hreached : arena.Reachable roots id := h.reachable id (.inr List.mem_cons_self)
  have hkeep (other : NodeId) (hother : other ∈ marked ∨ other ∈ id :: stack) :
      other ∈ id :: marked ∨ other ∈ (arena.childrenOf id).reverse ++ stack := by
    simp only [List.mem_cons, List.mem_append] at hother ⊢
    tauto
  refine ⟨List.nodup_cons.mpr ⟨hid, h.nodup⟩, ?_,
    fun other hother => hkeep other (h.roots other hother), ?_⟩
  · intro other hother
    simp only [List.mem_cons, List.mem_append, List.mem_reverse] at hother
    rcases hother with (rfl | hmarked) | (hchild | hstack)
    · exact hreached
    · exact h.reachable other (.inl hmarked)
    · exact .child hreached hchild
    · exact h.reachable other (.inr (List.mem_cons_of_mem id hstack))
  · intro other hother child hchild
    rcases List.mem_cons.mp hother with rfl | hother
    · exact .inr (by simp [hchild])
    · exact hkeep child (h.children other hother child hchild)

/-- When the stack is empty, what is marked is what roots lead to. -/
theorem mem_marked_iff (h : arena.Marking roots [] marked) :
    id ∈ marked ↔ arena.Reachable roots id := by
  constructor
  · exact fun hid => h.reachable id (.inl hid)
  · intro hid
    induction hid with
    | root hroot => simpa using h.roots _ hroot
    | child _ hchild ih => simpa using h.children _ ih _ hchild

end Marking

private theorem Marking.length_le {stack marked : List NodeId} (h : arena.ChildrenFirst)
    (hroots : ∀ root ∈ roots, root < arena.size) (hmarking : arena.Marking roots stack marked) :
    marked.length ≤ arena.size := by
  have hsubset : marked ⊆ List.range arena.size := fun id hid =>
    List.mem_range.mpr ((hmarking.reachable id (.inl hid)).lt_size h hroots)
  simpa using (hmarking.nodup.subperm hsubset).length_le

/-- The loop ends: each node is marked once, and between two marks the stack only shrinks. -/
theorem exists_collect? (h : arena.ChildrenFirst) (hroots : ∀ root ∈ roots, root < arena.size)
    {stack marked : List NodeId} (hmarking : arena.Marking roots stack marked) :
    ∃ steps result, collect? arena steps stack marked = some result ∧
      ∀ id, id ∈ result ↔ arena.Reachable roots id := by
  induction hunmarked : arena.size - marked.length using Nat.strongRecOn
    generalizing stack marked with
  | _ unmarked ih =>
      induction stack with
      | nil => exact ⟨1, marked, rfl, fun id => hmarking.mem_marked_iff⟩
      | cons id stack ihstack =>
          by_cases hid : id ∈ marked
          · obtain ⟨steps, result, hrun, hresult⟩ := ihstack (hmarking.met hid)
            exact ⟨steps + 1, result, by rw [collect?, if_pos hid, hrun], hresult⟩
          · have hmarked := hmarking.mark hid
            have hlength := hmarked.length_le h hroots
            rw [List.length_cons] at hlength
            obtain ⟨steps, result, hrun, hresult⟩ :=
              ih (arena.size - (id :: marked).length) (by rw [List.length_cons]; omega) hmarked rfl
            have hlt := (hmarking.reachable id (.inr List.mem_cons_self)).lt_size h hroots
            obtain ⟨node, hnode⟩ := node?_isSome_iff.mpr hlt
            rw [childrenOf_of_node? hnode] at hrun
            exact ⟨steps + 1, result, by rw [collect?, if_neg hid, hnode]; exact hrun, hresult⟩

end DocTemplate.Arena

import DocTemplate.Edit.Arena

/-!
# Growth of arenas

An arena that extends another has all of its nodes at their positions.  Allocation, storing a tree
and relinking only extend the arena, whether they succeed or not, so that cutting off at the old
size gives the old arena back.
-/

namespace DocTemplate.Arena

/-- All nodes of `before` are where they were, and new ones may stand behind them. -/
def Extends (after before : Arena) : Prop := ∃ added, after.nodes = before.nodes ++ added

namespace Extends

theorem refl (arena : Arena) : arena.Extends arena := ⟨#[], by simp⟩

theorem trans {first second third : Arena} (h : third.Extends second)
    (h' : second.Extends first) : third.Extends first := by
  obtain ⟨added, hadded⟩ := h
  obtain ⟨added', hadded'⟩ := h'
  exact ⟨added' ++ added, by rw [hadded, hadded', Array.append_assoc]⟩

theorem push (arena : Arena) (node : Node) : (arena.push node).Extends arena :=
  ⟨#[node], by simp [Arena.push]⟩

variable {before after : Arena}

theorem size_le (h : after.Extends before) : before.size ≤ after.size := by
  obtain ⟨added, hadded⟩ := h
  simp [size, hadded]

theorem node? (h : after.Extends before) {id : NodeId} (hid : id < before.size) :
    after.node? id = before.node? id := by
  obtain ⟨added, hadded⟩ := h
  rw [Arena.node?, Arena.node?, hadded, Array.getElem?_append_left hid]

theorem shapeOf (h : after.Extends before) {id : NodeId} (hid : id < before.size) :
    after.shapeOf id = before.shapeOf id := by
  rw [Arena.shapeOf, Arena.shapeOf, h.node? hid]

theorem childrenOf (h : after.Extends before) {id : NodeId} (hid : id < before.size) :
    after.childrenOf id = before.childrenOf id := by
  rw [Arena.childrenOf, Arena.childrenOf, h.node? hid]

theorem truncate (h : after.Extends before) : after.truncate before.size = before := by
  obtain ⟨added, hadded⟩ := h
  cases before
  simp [Arena.truncate, hadded, size]

end Extends

/-! ## Operations -/

mutual

theorem extends_insertTree : (element : Element) → (arena : Arena) →
    ((insertTree element).run arena).2.Extends arena
  | .container _ children, arena => (Extends.push _ _).trans (extends_insertTrees children arena)
  | .leaf _, arena => .push arena _

theorem extends_insertTrees : (elements : List Element) → (arena : Arena) →
    ((insertTrees elements).run arena).2.Extends arena
  | [], arena => .refl arena
  | child :: rest, arena => (extends_insertTrees rest _).trans (extends_insertTree child arena)

end

theorem run_relink?_cons (arena : Arena) (root replacement : NodeId) (index : Nat)
    (rest : ElementPath) :
    (relink? root replacement (index :: rest)).run arena =
      match (arena.childrenOf root)[index]? with
      | none => (none, arena)
      | some child =>
          match (relink? child replacement rest).run arena with
          | (none, after) => (none, after)
          | (some relinked, after) =>
              (some after.size,
                after.push ⟨arena.shapeOf root, (arena.childrenOf root).set index relinked⟩) := by
  simp only [relink?, StateT.run_bind, StateT.run_get, pure_bind]
  cases (arena.childrenOf root)[index]? with
  | none => rfl
  | some child =>
      simp only [StateT.run_bind]
      cases (relink? child replacement rest).run arena with
      | mk result after => cases result <;> rfl

theorem extends_relink? (root replacement : NodeId) (path : ElementPath) (arena : Arena) :
    ((relink? root replacement path).run arena).2.Extends arena := by
  induction path generalizing root with
  | nil => exact .refl arena
  | cons index rest ih =>
      rw [run_relink?_cons]
      cases (arena.childrenOf root)[index]? with
      | none => exact .refl arena
      | some child =>
          have hchild := ih child
          dsimp only
          cases hrun : (relink? child replacement rest).run arena with
          | mk result after =>
              rw [hrun] at hchild
              cases result with
              | none => exact hchild
              | some relinked => exact (Extends.push _ _).trans hchild

end DocTemplate.Arena

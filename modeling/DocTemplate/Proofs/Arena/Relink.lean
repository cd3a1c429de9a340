import DocTemplate.Proofs.Arena.WellFormed

/-!
# Relinking

A new root under which another node stands at the end of a path: the ancestors are allocated anew,
each with the children it had except for the one on the path.  The tree of the new root is the old
tree with the element at the path replaced.
-/

namespace DocTemplate.Arena

theorem holds_relink? {arena : Arena} {root replacement target : NodeId} {path : ElementPath}
    {element : Element} (hroot : root < arena.size) (h : arena.Holds [replacement] [element])
    (hresolve : arena.resolve? root path = some target) :
    ∃ id after, (relink? root replacement path).run arena = (some id, after) ∧
      after.Holds [id] [(arena.build root).modifyAt (fun _ => element) path] := by
  have hwell := h.wellFormed
  induction path generalizing root with
  | nil => exact ⟨replacement, arena, rfl, h⟩
  | cons index rest ih =>
      obtain ⟨child, hchild, hrest⟩ := Option.bind_eq_some_iff.mp hresolve
      have hlt := Nat.lt_trans (hwell.childrenOf_lt (List.mem_of_getElem? hchild)) hroot
      obtain ⟨id, after, hrun, hholds⟩ := ih hlt hrest
      have hgrowth : after.Extends arena := by
        simpa [hrun] using extends_relink? child replacement rest arena
      have hchildren := ((Holds.childrenOf hwell hroot).grow hgrowth hholds.wellFormed).set index
        hholds
      have hset : (arena.build root).children.set index
          ((arena.build child).modifyAt (fun _ => element) rest) =
          (arena.build root).children.modify index (Element.modifyAt (fun _ => element) rest) := by
        rw [List.modify_eq_set, children_build hwell, List.getElem?_map, hchild]
        rfl
      refine ⟨after.size, after.push ⟨arena.shapeOf root, (arena.childrenOf root).set index id⟩,
        ?_, ?_⟩
      · simp only [run_relink?_cons, hchild, hrun]
      · rw [Element.modifyAt, Element.withChildren, shape_build hwell, ← hset]
        apply hchildren.push
        intro hleaf
        rw [hwell.isContainer_of_child hchild] at hleaf
        contradiction

end DocTemplate.Arena

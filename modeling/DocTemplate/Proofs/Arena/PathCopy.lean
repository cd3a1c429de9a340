import DocTemplate.Proofs.Arena.Relink

/-!
# Copies of a path

Relinking copies the nodes on the way to the end of a path, the deepest first, and shares what
stands beside the path.  It succeeds just if the path leads to a node, which is the last one on the
way and the node of the element that the path leads to in the tree.
-/

namespace DocTemplate.Arena

variable {before after : Arena} {root replacement : NodeId} {path : ElementPath}

/-! ## The way to a node -/

theorem resolve?_eq_some_iff_ancestry? {arena : Arena} {id : NodeId} :
    arena.resolve? root path = some id ↔
      ∃ above, above.length = path.length ∧ arena.ancestry? root path = some (above ++ [id]) := by
  induction path generalizing root with
  | nil =>
      simp only [resolve?, ancestry?, List.length_nil, List.length_eq_zero_iff, exists_eq_left,
        List.nil_append, Option.some.injEq, List.cons.injEq, and_true]
  | cons index rest ih =>
      rw [resolve?, ancestry?]
      cases (arena.childrenOf root)[index]? with
      | none => simp
      | some child =>
          rw [Option.bind_some, Option.bind_some, ih]
          constructor
          · rintro ⟨above, hlength, habove⟩
            exact ⟨root :: above, by simp [hlength], by rw [habove]; rfl⟩
          · rintro ⟨above, hlength, habove⟩
            obtain ⟨chain, hchain, heq⟩ := Option.map_eq_some_iff.mp habove
            obtain ⟨first, above, rfl⟩ := List.exists_cons_of_length_eq_add_one hlength
            obtain ⟨-, rfl⟩ := List.cons.inj heq
            exact ⟨above, Nat.succ.inj hlength, hchain⟩

/-! ## Copied nodes -/

/-- The nodes on the path below `root` have been copied, each with its shape and its children except
for the one on the path: in its place stands its own copy or, at the end, the replacement. -/
inductive PathCopy (before after : Arena) (replacement : NodeId) :
    NodeId → ElementPath → NodeId → Prop where
  | target (root : NodeId) : PathCopy before after replacement root [] replacement
  | step {root child copy : NodeId} {index : Nat} {rest : ElementPath}
      (hchild : (before.childrenOf root)[index]? = some child)
      (hrest : PathCopy before after replacement child rest copy)
      (hnode : after.node? (before.size + rest.length) =
        some ⟨before.shapeOf root, (before.childrenOf root).set index copy⟩) :
      PathCopy before after replacement root (index :: rest) (before.size + rest.length)

private theorem PathCopy.grow {grown : Arena} {copy : NodeId}
    (h : PathCopy before after replacement root path copy) (hgrowth : grown.Extends after) :
    PathCopy before grown replacement root path copy := by
  induction h with
  | target root => exact .target root
  | step hchild _ hnode ih =>
      refine .step hchild ih ?_
      rw [hgrowth.node? (node?_isSome_iff.mp ⟨_, hnode⟩), hnode]

theorem run_relink?_of_none {arena : Arena} (hresolve : arena.resolve? root path = none) :
    (relink? root replacement path).run arena = (none, arena) := by
  induction path generalizing root with
  | nil => cases hresolve
  | cons index rest ih =>
      rw [resolve?] at hresolve
      rw [run_relink?_cons]
      cases hchild : (arena.childrenOf root)[index]? with
      | none => rfl
      | some child =>
          rw [hchild, Option.bind_some] at hresolve
          simp only [ih hresolve]

/-- The copy of a node is allocated behind those of the nodes below it. -/
theorem pathCopy_relink? {arena : Arena} {target : NodeId} (replacement : NodeId)
    (hresolve : arena.resolve? root path = some target) :
    ∃ copy after, (relink? root replacement path).run arena = (some copy, after) ∧
      after.size = arena.size + path.length ∧
      PathCopy arena after replacement root path copy := by
  induction path generalizing root with
  | nil => exact ⟨replacement, arena, rfl, rfl, .target root⟩
  | cons index rest ih =>
      obtain ⟨child, hchild, hrest⟩ := Option.bind_eq_some_iff.mp hresolve
      obtain ⟨copy, after, hrun, hsize, hcopy⟩ := ih hrest
      let node : Node := ⟨arena.shapeOf root, (arena.childrenOf root).set index copy⟩
      refine ⟨after.size, after.push node, ?_, ?_, ?_⟩
      · simp only [run_relink?_cons, hchild, hrun, node]
      · rw [size_push, hsize, List.length_cons, Nat.add_assoc]
      · have hnode := node?_push_size after node
        rw [hsize] at hnode ⊢
        exact .step hchild (hcopy.grow (.push after node)) hnode

/-! ## Relinking -/

/-- A path leads to a node just if it leads to an element in the tree, which is the tree of that
node, and the node is the last on the way.  If there is no such node, nothing is relinked or
allocated.  Otherwise as many nodes are allocated as the path is deep, the copies of the nodes on
the way with all children beside it; no node changes, and the tree of the new root is the old one
with the tree of the replacement at the path.  A tree that is stored is read back. -/
theorem relinking_copies_only_the_path {arena : Arena} (h : arena.WellFormed)
    (hroot : root < arena.size) (hreplacement : replacement < arena.size) (path : ElementPath) :
    (arena.build root).find? path = (arena.resolve? root path).map arena.build ∧
      (∀ id, arena.resolve? root path = some id ↔
        ∃ above, above.length = path.length ∧ arena.ancestry? root path = some (above ++ [id])) ∧
      (arena.resolve? root path = none →
        (relink? root replacement path).run arena = (none, arena)) ∧
      (∀ id, arena.resolve? root path = some id →
        ∃ copy after, (relink? root replacement path).run arena = (some copy, after) ∧
          after.WellFormed ∧ after.size = arena.size + path.length ∧
          (∀ id < arena.size, after.node? id = arena.node? id) ∧
          PathCopy arena after replacement root path copy ∧
          after.build copy = (arena.build root).modifyAt (fun _ => arena.build replacement) path) ∧
      ∀ element : Element, let stored := (insertTree element).run arena
        stored.2.build stored.1 = element := by
  refine ⟨find?_build h root path, fun _ => resolve?_eq_some_iff_ancestry?, run_relink?_of_none,
    fun id hresolve => ?_, fun element => (holds_insertTree element h).build_single⟩
  obtain ⟨copy, after, hrun, hsize, hcopy⟩ := pathCopy_relink? replacement hresolve
  obtain ⟨copy', after', hrun', hholds⟩ := holds_relink? hroot (.single h hreplacement) hresolve
  obtain ⟨hid, rfl⟩ := Prod.mk.inj (hrun.symm.trans hrun')
  obtain rfl := Option.some.inj hid
  have hgrowth : after.Extends arena := by
    simpa [hrun] using extends_relink? root replacement path arena
  exact ⟨copy, after, hrun, hholds.wellFormed, hsize, fun id hid => hgrowth.node? hid, hcopy,
    hholds.build_single⟩

theorem relinking_copies_only_the_path_to_a_text :
    let row (last : String) : Element := .stack .row [.text "b", .text last]
    let arena := ((insertTrees [.frame [.text "a", row "c"], .text "C"]).run .empty).2
    arena.WellFormed ∧ 4 < arena.size ∧ 5 < arena.size ∧ arena.resolve? 4 [1, 1] = some 2 ∧
      ∃ copy after, (relink? 4 5 [1, 1]).run arena = (some copy, after) ∧ after.size = 8 ∧
        arena.childrenOf 4 = [0, 3] ∧ after.childrenOf copy = [0, 6] ∧
        after.childrenOf 6 = [1, 5] ∧ after.build copy = .frame [.text "a", row "C"] := by
  intro row arena
  have hstored : arena.Holds [4, 5] [.frame [.text "a", row "c"], .text "C"] :=
    holds_insertTrees _ wellFormed_empty
  obtain ⟨-, -, -, hcopied, -⟩ :=
    relinking_copies_only_the_path hstored.wellFormed (show 4 < arena.size by decide)
      (show 5 < arena.size by decide) [1, 1]
  obtain ⟨copy, after, hrun, -, hsize, -, -, htree⟩ := hcopied 2 rfl
  have hafter : (some 7, ((relink? 4 5 [1, 1]).run arena).2) = (some copy, after) := hrun
  cases hafter
  have htrees := hstored.build
  simp only [List.map_cons, List.map_nil, List.cons.injEq, and_true] at htrees
  rw [htrees.1, htrees.2] at htree
  exact ⟨hstored.wellFormed, by decide, by decide, rfl, _, _, hrun, hsize, rfl, rfl, rfl, htree⟩

end DocTemplate.Arena

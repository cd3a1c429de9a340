import DocTemplate.Proofs.Arena.Compaction

/-!
# What compaction keeps

The nodes in use are the nodes that some root leads to.  They are moved together in their order, so
the trees of the roots are as they were, and in the arena that is left every node is in use: there
is nothing to drop and nothing to move when it is compacted again.
-/

namespace DocTemplate.Arena

variable {arena : Arena} {roots : List NodeId}

/-! ## Reachable nodes -/

/-- Some root leads to the node, from parents to children. -/
inductive Reachable (arena : Arena) (roots : List NodeId) : NodeId → Prop where
  | root {id : NodeId} (hroot : id ∈ roots) : Reachable arena roots id
  | child {id child : NodeId} (hid : Reachable arena roots id)
      (hchild : child ∈ arena.childrenOf id) : Reachable arena roots child

theorem Reachable.lt_size (h : arena.ChildrenFirst) (hroots : ∀ root ∈ roots, root < arena.size)
    {id : NodeId} (hid : arena.Reachable roots id) : id < arena.size := by
  induction hid with
  | root hroot => exact hroots _ hroot
  | child _ hchild ih => exact Nat.lt_trans (h _ _ hchild) ih

private theorem Flags.has_replicate_false (size : Nat) (id : NodeId) :
    Flags.has (Array.replicate size false) id = false := by
  rw [has, Array.getD_eq_getD_getElem?, Array.getElem?_replicate]
  split <;> rfl

private theorem reachable_of_has_sweep {flags : Flags} {count : Nat}
    (h : ∀ id, flags.has id = true → arena.Reachable roots id) :
    ∀ id, (arena.sweep count flags).has id = true → arena.Reachable roots id := by
  induction count generalizing flags with
  | zero => exact h
  | succ swept ih =>
      rw [sweep]
      apply ih
      intro id hid
      split at hid
      · next hswept =>
          rcases (Flags.has_mark_iff ..).mp hid with hbefore | ⟨hchild, -⟩
          · exact h id hbefore
          · exact .child (h swept hswept) hchild
      · exact h id hid

theorem has_inUse_iff (h : arena.ChildrenFirst) (hroots : ∀ root ∈ roots, root < arena.size)
    {id : NodeId} : (arena.inUse roots).has id = true ↔ arena.Reachable roots id := by
  constructor
  · apply reachable_of_has_sweep
    intro root hroot
    rcases (Flags.has_mark_iff ..).mp hroot with hnone | ⟨hmem, -⟩
    · rw [Flags.has_replicate_false] at hnone
      contradiction
    · exact .root hmem
  · intro hid
    induction hid with
    | root hroot => exact inUse_root hroot (hroots _ hroot)
    | child _ hchild ih => exact inUse_closed h ih hchild

/-! ## Kept nodes -/

theorem pack_sublist {α : Type} (entries : List α) (flags : List Bool) :
    (pack id entries flags).Sublist entries := by
  induction flags generalizing entries with
  | nil => simp [pack]
  | cons flag flags ih =>
      cases entries with
      | nil => simp [pack]
      | cons head entries =>
          cases flag with
          | false => exact (ih entries).cons head
          | true => exact (ih entries).cons_cons head

private theorem length_pack_congr {α β γ δ : Type} {write : α → β} {write' : γ → δ}
    {entries : List α} {others : List γ} (flags : List Bool) (h : entries.length = others.length) :
    (pack write entries flags).length = (pack write' others flags).length := by
  induction flags generalizing entries others with
  | nil => simp [pack]
  | cons flag flags ih =>
      cases entries with
      | nil =>
          rw [List.length_eq_zero_iff.mp h.symm]
          rfl
      | cons head entries =>
          cases others with
          | nil => simp at h
          | cons other others =>
              have hrest := ih (Nat.succ.inj h)
              cases flag <;> simpa [pack] using hrest

def kept (arena : Arena) (roots : List NodeId) : List NodeId :=
  pack id (List.range arena.size) (arena.inUse roots).toList

theorem kept_pairwise (arena : Arena) (roots : List NodeId) :
    (arena.kept roots).Pairwise (· < ·) :=
  List.pairwise_lt_range.sublist (pack_sublist ..)

theorem getElem?_kept {id : NodeId} (h : (arena.inUse roots).has id = true) :
    (arena.kept roots)[(arena.compact roots).renumber id]? = some id := by
  have hlt : id < arena.size := by simpa using Flags.lt_size_of_has h
  rw [renumber_of_has h]
  exact getElem?_pack (getElem?_inUse_of_has h) (List.getElem?_range hlt)

theorem has_of_getElem?_kept {position : Nat} {id : NodeId}
    (h : (arena.kept roots)[position]? = some id) :
    (arena.inUse roots).has id = true ∧ (arena.compact roots).renumber id = position := by
  obtain ⟨old, entry, hmarked, hentry, hrank, rfl⟩ := exists_of_getElem?_pack h
  obtain ⟨hlt, rfl⟩ := List.getElem?_eq_some_iff.mp hentry
  rw [List.getElem_range]
  have hused := has_inUse_of_getElem? hmarked
  exact ⟨hused, (renumber_of_has hused).trans hrank⟩

theorem mem_kept {id : NodeId} : id ∈ arena.kept roots ↔ (arena.inUse roots).has id = true := by
  constructor
  · intro h
    obtain ⟨position, hposition⟩ := List.getElem?_of_mem h
    exact (has_of_getElem?_kept hposition).1
  · exact fun h => List.mem_of_getElem? (getElem?_kept h)

theorem size_compact (arena : Arena) (roots : List NodeId) :
    (arena.compact roots).arena.size = (arena.kept roots).length := by
  rw [size, compact_nodes, List.size_toArray, kept]
  exact length_pack_congr _ (by simp [size])

theorem length_kept_le (arena : Arena) (roots : List NodeId) :
    (arena.kept roots).length ≤ arena.size := by
  simpa [kept] using (pack_sublist (List.range arena.size) _).length_le

theorem reclaimed_compact (arena : Arena) (roots : List NodeId) :
    (arena.compact roots).reclaimed = arena.size - (arena.compact roots).arena.size := by
  change _ = arena.size - (arena.compact roots).arena.nodes.size
  rw [compact_nodes, List.size_toArray]
  rfl

/-- The arena holds the nodes `kept` of another one in their order and no others, and every link
leads to the new position of the node it has led to. -/
structure Compaction.Keeps (compaction : Compaction) (arena : Arena) (kept : List NodeId) :
    Prop where
  size : compaction.arena.size = kept.length
  position : ∀ position id, kept[position]? = some id → compaction.renumber id = position
  node : ∀ position id, kept[position]? = some id →
    compaction.arena.node? position = (arena.node? id).map fun node =>
      { node with children := node.children.map compaction.renumber }

theorem keeps_kept (arena : Arena) (roots : List NodeId) :
    (arena.compact roots).Keeps arena (arena.kept roots) where
  size := size_compact arena roots
  position _ _ h := (has_of_getElem?_kept h).2
  node position id h := by
    obtain ⟨hused, rfl⟩ := has_of_getElem?_kept h
    have hlt : id < arena.size := by simpa using Flags.lt_size_of_has hused
    obtain ⟨node, hnode⟩ := node?_isSome_iff.mpr hlt
    rw [node?_compact hused hnode, hnode]
    rfl

theorem renumber_inj {first second : NodeId} (hfirst : (arena.inUse roots).has first = true)
    (hsecond : (arena.inUse roots).has second = true) :
    (arena.compact roots).renumber first = (arena.compact roots).renumber second ↔
      first = second := by
  constructor
  · intro h
    have hkept := getElem?_kept hfirst
    rw [h, getElem?_kept hsecond] at hkept
    exact (Option.some.inj hkept).symm
  · exact fun h => h ▸ rfl

/-! ## A second compaction -/

private theorem pack_replicate {α β : Type} (write : α → β) (entries : List α) :
    pack write entries (List.replicate entries.length true) = entries.map write := by
  induction entries with
  | nil => rfl
  | cons head rest ih => simpa [pack, List.replicate_succ] using ih

section AllInUse

variable (h : ∀ id < arena.size, (arena.inUse roots).has id = true)

include h

theorem inUse_eq_replicate : (arena.inUse roots).toList = List.replicate arena.size true := by
  refine List.eq_replicate_iff.mpr ⟨by simp, fun flag hflag => ?_⟩
  obtain ⟨id, hid⟩ := List.getElem?_of_mem hflag
  have hlt : id < arena.size := by
    simpa using (List.getElem?_eq_some_iff.mp hid).1
  rw [getElem?_inUse_of_has (h id hlt)] at hid
  exact (Option.some.inj hid).symm

theorem renumber_eq_self (id : NodeId) : (arena.compact roots).renumber id = id := by
  cases hused : (arena.inUse roots).has id with
  | false => simp [compact, hused]
  | true =>
      have hlt : id < arena.size := by simpa using Flags.lt_size_of_has hused
      rw [renumber_of_has hused, inUse_eq_replicate h, rank, List.take_replicate,
        List.count_replicate_self, Nat.min_eq_left (Nat.le_of_lt hlt)]

theorem compact_eq_self : (arena.compact roots).arena = arena := by
  have hmoved : moved arena roots = id := by
    funext node
    simp [moved, funext (renumber_eq_self h)]
  have hlength : arena.size = arena.nodes.toList.length := by simp [size]
  have hnodes : (arena.compact roots).arena.nodes = arena.nodes := by
    rw [compact_nodes, inUse_eq_replicate h, hlength, pack_replicate, hmoved, List.map_id,
      Array.toArray_toList]
  cases arena
  exact congrArg Arena.mk hnodes

end AllInUse

private theorem Reachable.renumber (h : arena.ChildrenFirst)
    (hroots : ∀ root ∈ roots, root < arena.size) {id : NodeId} (hid : arena.Reachable roots id) :
    (arena.compact roots).arena.Reachable (roots.map (arena.compact roots).renumber)
      ((arena.compact roots).renumber id) := by
  induction hid with
  | root hroot => exact .root (List.mem_map_of_mem hroot)
  | child hid hchild ih =>
      refine .child ih ?_
      rw [(carries_compact h).children _ ((has_inUse_iff h hroots).mpr hid)]
      exact List.mem_map_of_mem hchild

theorem renumbered_lt (hroots : ∀ root ∈ roots, root < arena.size) :
    ∀ root ∈ roots.map (arena.compact roots).renumber, root < (arena.compact roots).arena.size := by
  intro root hroot
  obtain ⟨old, hold, rfl⟩ := List.mem_map.mp hroot
  exact renumber_lt hold (hroots old hold)

theorem has_inUse_compact (h : arena.ChildrenFirst) (hroots : ∀ root ∈ roots, root < arena.size) :
    ∀ place < (arena.compact roots).arena.size,
      ((arena.compact roots).arena.inUse (roots.map (arena.compact roots).renumber)).has place =
        true := by
  intro place hplace
  obtain ⟨result, hresult⟩ := node?_isSome_iff.mpr hplace
  obtain ⟨id, node, hused, -, rfl, -⟩ := exists_of_node?_compact hresult
  apply (has_inUse_iff (childrenFirst_compact h) (renumbered_lt hroots)).mpr
  exact ((has_inUse_iff h hroots).mp hused).renumber h hroots

/-! ## Compaction -/

/-- The roots lead to the same trees as before, one by one, and two of them are the same node
exactly if they were.  The nodes that are left are those that a root leads to, in their order, with
children in front of their parents, and all others are counted as reclaimed.  When the arena is
compacted again, nothing is reclaimed and everything stays where it is. -/
theorem compact_keeps_reachable (h : arena.ChildrenFirst)
    (hroots : ∀ root ∈ roots, root < arena.size) :
    let compaction := arena.compact roots
    let renumbered := roots.map compaction.renumber
    let again := compaction.arena.compact renumbered
    (∀ root ∈ renumbered, root < compaction.arena.size) ∧
      renumbered.map compaction.arena.build = roots.map arena.build ∧
      (∀ first ∈ roots, ∀ second ∈ roots,
        compaction.renumber first = compaction.renumber second ↔ first = second) ∧
      (∃ kept : List NodeId, kept.Pairwise (· < ·) ∧
        (∀ id, id ∈ kept ↔ arena.Reachable roots id) ∧ compaction.Keeps arena kept ∧
        compaction.reclaimed + kept.length = arena.size) ∧
      compaction.arena.ChildrenFirst ∧
      again.arena = compaction.arena ∧ again.reclaimed = 0 ∧
      renumbered.map again.renumber = renumbered := by
  intro compaction renumbered again
  have hused (root : NodeId) (hroot : root ∈ roots) : (arena.inUse roots).has root = true :=
    inUse_root hroot (hroots root hroot)
  have hall := has_inUse_compact h hroots
  have hagain : again.arena = compaction.arena := compact_eq_self hall
  refine ⟨renumbered_lt hroots, ?_, ?_, ⟨arena.kept roots, kept_pairwise arena roots, ?_,
    keeps_kept arena roots, ?_⟩, childrenFirst_compact h, hagain, ?_, ?_⟩
  · rw [List.map_map]
    exact List.map_congr_left fun root hroot => build_compact h hroot (hroots root hroot)
  · intro first hfirst second hsecond
    exact renumber_inj (hused first hfirst) (hused second hsecond)
  · exact fun id => mem_kept.trans (has_inUse_iff h hroots)
  · rw [reclaimed_compact, size_compact]
    exact Nat.sub_add_cancel (length_kept_le arena roots)
  · rw [reclaimed_compact, hagain, Nat.sub_self]
  · exact (List.map_congr_left fun root _ => renumber_eq_self hall root).trans (List.map_id _)

theorem compact_keeps_reachable_shared :
    let node (children : List NodeId) : Node := ⟨Element.blank.shape, children⟩
    let arena : Arena := ⟨#[node [], node [], node [0, 0], node [2, 0], node [1]]⟩
    let compaction := arena.compact [3, 2, 3]
    let again := compaction.arena.compact ([3, 2, 3].map compaction.renumber)
    arena.ChildrenFirst ∧ (∀ root ∈ [3, 2, 3], root < arena.size) ∧
      [3, 2, 3].map compaction.renumber = [2, 1, 2] ∧ compaction.reclaimed = 2 ∧
      [2, 1, 2].map compaction.arena.build = [3, 2, 3].map arena.build ∧
      again.arena = compaction.arena ∧ again.reclaimed = 0 := by
  intro node arena compaction again
  have hchildren : arena.ChildrenFirst := by
    apply childrenFirst_of_lt_size
    decide
  have hroots : ∀ root ∈ [3, 2, 3], root < arena.size := by decide
  have hrenumbered : [3, 2, 3].map compaction.renumber = [2, 1, 2] := by decide
  obtain ⟨-, htrees, -, -, -, hagain, hreclaimed, -⟩ := compact_keeps_reachable hchildren hroots
  exact ⟨hchildren, hroots, hrenumbered, by decide, hrenumbered ▸ htrees, hagain, hreclaimed⟩

end DocTemplate.Arena

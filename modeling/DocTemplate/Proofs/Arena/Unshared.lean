import DocTemplate.Proofs.Arena.PathCopy
import DocTemplate.Proofs.Arena.Reachability
import Mathlib.Data.List.Nodup
import Mathlib.Data.List.Perm.Basic

/-!
# Nodes below a node

The nodes below a node are listed once for every path that leads to them.  A list of roots is apart
when no node is listed twice, neither below one root nor below two of them.  A tree that is stored
consists of the new nodes, each of them once.  Relinking gives up the nodes on the path, allocates
others and keeps all that are beside it, so it leaves apart what was apart.
-/

namespace DocTemplate.Arena

variable {arena before after : Arena} {root replacement target : NodeId} {path : ElementPath}

/-! ## Nodes below -/

/-- A node and those below it, each as often as paths lead to it. -/
def nodesBelow (arena : Arena) (id : NodeId) : List NodeId :=
  id :: ((arena.followed id).map fun ⟨child, _⟩ => arena.nodesBelow child).flatten
termination_by id

theorem nodesBelow_eq (h : arena.ChildrenFirst) (id : NodeId) :
    arena.nodesBelow id = id :: (arena.childrenOf id).flatMap arena.nodesBelow := by
  rw [nodesBelow, map_followed h]
  rfl

private theorem mem_nodesBelow_self (arena : Arena) (id : NodeId) : id ∈ arena.nodesBelow id := by
  rw [nodesBelow]
  exact List.mem_cons_self ..

theorem le_of_mem_nodesBelow (h : arena.ChildrenFirst) {id below : NodeId}
    (hbelow : below ∈ arena.nodesBelow id) : below ≤ id := by
  induction id using Nat.strongRecOn with
  | _ id ih =>
      rw [nodesBelow_eq h, List.mem_cons, List.mem_flatMap] at hbelow
      rcases hbelow with rfl | ⟨child, hchild, hbelow⟩
      · exact Nat.le_refl below
      · have hlt := h id child hchild
        exact Nat.le_trans (ih child hlt hbelow) (Nat.le_of_lt hlt)

theorem mem_nodesBelow_of_resolve? (h : arena.ChildrenFirst) {id : NodeId}
    (hresolve : arena.resolve? root path = some id) : id ∈ arena.nodesBelow root := by
  induction path generalizing root with
  | nil =>
      cases hresolve
      exact mem_nodesBelow_self ..
  | cons index rest ih =>
      obtain ⟨child, hchild, hrest⟩ := Option.bind_eq_some_iff.mp hresolve
      rw [nodesBelow_eq h]
      refine List.mem_cons_of_mem _ (List.mem_flatMap.mpr ⟨child, ?_, ih hrest⟩)
      exact List.mem_of_getElem? hchild

private theorem lt_of_resolve?_cons (h : arena.ChildrenFirst) {index : Nat} {rest : ElementPath}
    {id : NodeId} (hresolve : arena.resolve? root (index :: rest) = some id) : id < root := by
  obtain ⟨child, hchild, hrest⟩ := Option.bind_eq_some_iff.mp hresolve
  have hle := le_of_mem_nodesBelow h (mem_nodesBelow_of_resolve? h hrest)
  exact Nat.lt_of_le_of_lt hle (h root child (List.mem_of_getElem? hchild))

private theorem index_eq_of_mem_nodesBelow {children : List NodeId} {index other : Nat}
    {child child' below : NodeId}
    (h : children.Pairwise fun first second =>
      (arena.nodesBelow first).Disjoint (arena.nodesBelow second))
    (hchild : children[index]? = some child) (hchild' : children[other]? = some child')
    (hbelow : below ∈ arena.nodesBelow child) (hbelow' : below ∈ arena.nodesBelow child') :
    index = other := by
  obtain ⟨hlt, rfl⟩ := List.getElem?_eq_some_iff.mp hchild
  obtain ⟨hlt', rfl⟩ := List.getElem?_eq_some_iff.mp hchild'
  rw [List.pairwise_iff_getElem] at h
  by_contra hne
  rcases Nat.lt_or_gt_of_ne hne with hfront | hbehind
  · exact h index other hlt hlt' hfront hbelow hbelow'
  · exact h other index hlt' hlt hbehind hbelow' hbelow

theorem nodesBelow_of_carries {rename : NodeId → NodeId} {keep : NodeId → Prop}
    (hcarries : Carries rename keep before after) (hbefore : before.ChildrenFirst)
    (hafter : after.ChildrenFirst) {id : NodeId} (hid : keep id) :
    after.nodesBelow (rename id) = (before.nodesBelow id).map rename := by
  induction id using Nat.strongRecOn with
  | _ id ih =>
      have hbelow : ∀ child ∈ before.childrenOf id,
          after.nodesBelow (rename child) = (before.nodesBelow child).map rename :=
        fun child hchild =>
          ih child (hbefore id child hchild) (hcarries.closed id hid child hchild)
      rw [nodesBelow_eq hafter, nodesBelow_eq hbefore, hcarries.children id hid, List.flatMap_map,
        List.flatMap_congr hbelow, List.map_cons, List.map_flatMap]

private theorem keep_of_mem_nodesBelow {rename : NodeId → NodeId} {keep : NodeId → Prop}
    (hcarries : Carries rename keep before after) (hbefore : before.ChildrenFirst)
    {id below : NodeId} (hid : keep id) (hbelow : below ∈ before.nodesBelow id) : keep below := by
  induction id using Nat.strongRecOn with
  | _ id ih =>
      rw [nodesBelow_eq hbefore, List.mem_cons, List.mem_flatMap] at hbelow
      rcases hbelow with rfl | ⟨child, hchild, hbelow⟩
      · exact hid
      · exact ih child (hbefore id child hchild) (hcarries.closed id hid child hchild) hbelow

theorem Extends.nodesBelow (h : after.Extends before) (hbefore : before.WellFormed)
    (hafter : after.ChildrenFirst) {id : NodeId} (hid : id < before.size) :
    after.nodesBelow id = before.nodesBelow id := by
  rw [nodesBelow_of_carries (h.carries hbefore) hbefore.childrenFirst hafter hid, List.map_id']

/-! ## Sizes of trees -/

theorem subtreeSize_eq (h : arena.ChildrenFirst) (id : NodeId) :
    arena.subtreeSize id = 1 + ((arena.childrenOf id).map arena.subtreeSize).foldr (· + ·) 0 := by
  rw [subtreeSize, map_followed h]

private theorem nodeCounts_eq (elements : List Element) :
    Element.nodeCounts elements = (elements.map Element.nodeCount).foldr (· + ·) 0 := by
  induction elements with
  | nil => rfl
  | cons child rest ih => rw [Element.nodeCounts, ih, List.map_cons, List.foldr_cons]

private theorem nodeCount_eq (element : Element) :
    element.nodeCount = 1 + (element.children.map Element.nodeCount).foldr (· + ·) 0 := by
  cases element with
  | container kind children => rw [Element.nodeCount, nodeCounts_eq]; rfl
  | leaf kind => rfl

theorem nodeCount_build (h : arena.WellFormed) (id : NodeId) :
    (arena.build id).nodeCount = arena.subtreeSize id := by
  induction id using Nat.strongRecOn with
  | _ id ih =>
      rw [nodeCount_eq, children_build h, subtreeSize_eq h.childrenFirst, List.map_map]
      congr 2
      exact List.map_congr_left fun child hchild => ih child (h.childrenOf_lt hchild)

/-! ## Roots that are apart -/

/-- The ids are nodes of the arena, and no node is below two of them or twice below one. -/
structure Apart (arena : Arena) (ids : List NodeId) : Prop where
  wellFormed : arena.WellFormed
  ids_lt : ∀ id ∈ ids, id < arena.size
  nodup : (ids.flatMap arena.nodesBelow).Nodup

namespace Apart

variable {ids : List NodeId}

theorem mem_lt (h : arena.Apart ids) {below : NodeId}
    (hbelow : below ∈ ids.flatMap arena.nodesBelow) : below < arena.size := by
  obtain ⟨id, hid, hbelow⟩ := List.mem_flatMap.mp hbelow
  exact Nat.lt_of_le_of_lt (le_of_mem_nodesBelow h.wellFormed.childrenFirst hbelow)
    (h.ids_lt id hid)

theorem lt_size {id : NodeId} (h : arena.Apart (id :: ids)) : id < arena.size :=
  h.ids_lt id (by simp)

theorem of_cons {id : NodeId} (h : arena.Apart (id :: ids)) : arena.Apart [id] where
  wellFormed := h.wellFormed
  ids_lt := by simpa using h.lt_size
  nodup := by
    have hnodup := h.nodup
    rw [List.flatMap_cons] at hnodup
    rw [List.flatMap_singleton]
    exact hnodup.of_append_left

private theorem flatMap_of_carries {rename : NodeId → NodeId} {keep : NodeId → Prop}
    (h : before.Apart ids) (hcarries : Carries rename keep before after)
    (hwell : after.WellFormed) (hkeep : ∀ id ∈ ids, keep id) :
    (ids.map rename).flatMap after.nodesBelow = (ids.flatMap before.nodesBelow).map rename := by
  rw [List.flatMap_map, List.map_flatMap]
  exact List.flatMap_congr fun id hid => nodesBelow_of_carries hcarries
    h.wellFormed.childrenFirst hwell.childrenFirst (hkeep id hid)

theorem carry {rename : NodeId → NodeId} {keep : NodeId → Prop} (h : before.Apart ids)
    (hcarries : Carries rename keep before after) (hwell : after.WellFormed)
    (hkeep : ∀ id ∈ ids, keep id) (hlt : ∀ id, keep id → rename id < after.size)
    (hinj : ∀ id other, keep id → keep other → rename id = rename other → id = other) :
    after.Apart (ids.map rename) where
  wellFormed := hwell
  ids_lt := by
    intro renamed hrenamed
    obtain ⟨id, hid, rfl⟩ := List.mem_map.mp hrenamed
    exact hlt id (hkeep id hid)
  nodup := by
    have hbelow : ∀ below ∈ ids.flatMap before.nodesBelow, keep below := by
      intro below hbelow
      obtain ⟨id, hid, hbelow⟩ := List.mem_flatMap.mp hbelow
      exact keep_of_mem_nodesBelow hcarries h.wellFormed.childrenFirst (hkeep id hid) hbelow
    rw [h.flatMap_of_carries hcarries hwell hkeep]
    exact h.nodup.map_on fun id hid other hother =>
      hinj id other (hbelow id hid) (hbelow other hother)

theorem grow (h : before.Apart ids) (hgrowth : after.Extends before) (hwell : after.WellFormed) :
    after.Apart ids := by
  have hcarried := h.carry (hgrowth.carries h.wellFormed) hwell h.ids_lt
    (fun id hid => Nat.lt_of_lt_of_le hid hgrowth.size_le) (fun _ _ _ _ heq => heq)
  rwa [List.map_id'] at hcarried

theorem compact (h : arena.Apart ids) {roots : List NodeId} (hids : ids ⊆ roots) :
    (arena.compact roots).arena.Apart (ids.map (arena.compact roots).renumber) := by
  have hfirst := h.wellFormed.childrenFirst
  refine h.carry (carries_compact hfirst) (wellFormed_compact h.wellFormed)
    (fun id hid => inUse_root (hids hid) (h.ids_lt id hid)) ?_
    (fun _ _ hid hother => (renumber_inj hid hother).mp)
  intro id hused
  obtain ⟨node, hnode⟩ := node?_isSome_iff.mpr (by simpa using Flags.lt_size_of_has hused)
  exact node?_isSome_iff.mp ⟨_, node?_compact hused hnode⟩

theorem path_unique (h : arena.Apart [root]) {path other : ElementPath} {id : NodeId}
    (hpath : arena.resolve? root path = some id) (hother : arena.resolve? root other = some id) :
    path = other := by
  have hfirst := h.wellFormed.childrenFirst
  have hnodup := h.nodup
  rw [List.flatMap_singleton] at hnodup
  clear h
  induction path generalizing root other with
  | nil =>
      cases hpath
      cases other with
      | nil => rfl
      | cons => exact absurd (lt_of_resolve?_cons hfirst hother) (Nat.lt_irrefl _)
  | cons index rest ih =>
      cases other with
      | nil =>
          cases hother
          exact absurd (lt_of_resolve?_cons hfirst hpath) (Nat.lt_irrefl _)
      | cons index' rest' =>
          obtain ⟨child, hchild, hrest⟩ := Option.bind_eq_some_iff.mp hpath
          obtain ⟨child', hchild', hrest'⟩ := Option.bind_eq_some_iff.mp hother
          rw [nodesBelow_eq hfirst, List.nodup_cons, List.nodup_flatMap] at hnodup
          obtain ⟨-, hchildren, hdisjoint⟩ := hnodup
          obtain rfl : index = index' := index_eq_of_mem_nodesBelow hdisjoint hchild hchild'
            (mem_nodesBelow_of_resolve? hfirst hrest) (mem_nodesBelow_of_resolve? hfirst hrest')
          cases hchild.symm.trans hchild'
          rw [ih hrest hrest' (hchildren child (List.mem_of_getElem? hchild))]

end Apart

/-! ## Stored trees -/

theorem nodesBelow_push (node : Node) (h : arena.WellFormed) (hnode : node.Fits arena.size) :
    (arena.push node).nodesBelow arena.size =
      arena.size :: node.children.flatMap arena.nodesBelow := by
  have hafter := wellFormed_push h hnode
  rw [nodesBelow_eq hafter.childrenFirst, childrenOf_of_node? (node?_push_size arena node)]
  congr 1
  exact List.flatMap_congr fun child hchild =>
    (Extends.push arena node).nodesBelow h hafter.childrenFirst (hnode.children_lt child hchild)

mutual

theorem nodesBelow_insertTree : (element : Element) → {arena : Arena} → arena.WellFormed →
    let stored := (insertTree element).run arena
    stored.2.size = arena.size + element.nodeCount ∧
      (stored.2.nodesBelow stored.1).Perm (List.range' arena.size element.nodeCount)
  | .container kind children, arena, h => by
      obtain ⟨hsize, hbelow⟩ := nodesBelow_insertTrees children h
      have hstored := holds_insertTrees children h
      have hnode := nodesBelow_push ⟨.container kind, _⟩ hstored.wellFormed
        ⟨hstored.ids_lt, nofun⟩
      constructor
      · rw [Element.nodeCount, Nat.add_comm 1, ← Nat.add_assoc, ← hsize]
        exact size_push ..
      · rw [Element.nodeCount, Nat.add_comm 1, List.range'_1_concat, ← hsize]
        exact (List.Perm.of_eq hnode).trans
          ((List.perm_append_singleton ..).symm.trans (hbelow.append_right _))
  | .leaf kind, arena, h =>
      ⟨size_push .., .of_eq (nodesBelow_push ⟨.leaf kind, []⟩ h ⟨by simp, fun _ => rfl⟩)⟩

private theorem nodesBelow_insertTrees :
    (elements : List Element) → {arena : Arena} → arena.WellFormed →
    let stored := (insertTrees elements).run arena
    stored.2.size = arena.size + Element.nodeCounts elements ∧
      (stored.1.flatMap stored.2.nodesBelow).Perm
        (List.range' arena.size (Element.nodeCounts elements))
  | [], _, _ => ⟨rfl, .refl _⟩
  | child :: rest, arena, h => by
      have hchild := holds_insertTree child h
      obtain ⟨hsize, hbelow⟩ := nodesBelow_insertTree child h
      have hrest := holds_insertTrees rest hchild.wellFormed
      obtain ⟨hsize', hbelow'⟩ := nodesBelow_insertTrees rest hchild.wellFormed
      have hkept := (extends_insertTrees rest _).nodesBelow hchild.wellFormed
        hrest.wellFormed.childrenFirst hchild.lt_size
      rw [Element.nodeCounts]
      constructor
      · rw [← Nat.add_assoc, ← hsize]
        exact hsize'
      · rw [← List.range'_append_1, ← hsize]
        exact ((List.Perm.of_eq hkept).trans hbelow).append hbelow'

end

theorem Apart.nil (h : arena.WellFormed) : arena.Apart [] := ⟨h, by simp, .nil⟩

theorem Apart.insertTree {ids : List NodeId} (h : arena.Apart ids) (element : Element) :
    let stored := (Arena.insertTree element).run arena
    stored.2.Apart (ids ++ [stored.1]) := by
  intro stored
  have hstored : stored.2.Holds [stored.1] [element] := holds_insertTree element h.wellFormed
  have hgrowth : stored.2.Extends arena := extends_insertTree element arena
  obtain ⟨-, hbelow⟩ : stored.2.size = _ ∧ (stored.2.nodesBelow stored.1).Perm _ :=
    nodesBelow_insertTree element h.wellFormed
  have hkept : ids.flatMap stored.2.nodesBelow = ids.flatMap arena.nodesBelow :=
    List.flatMap_congr fun id hid =>
      hgrowth.nodesBelow h.wellFormed hstored.wellFormed.childrenFirst (h.ids_lt id hid)
  refine ⟨hstored.wellFormed, ?_, ?_⟩
  · intro id hid
    rcases List.mem_append.mp hid with hid | hid
    · exact Nat.lt_of_lt_of_le (h.ids_lt id hid) hgrowth.size_le
    · exact hstored.ids_lt id hid
  · rw [List.flatMap_append, hkept, List.flatMap_singleton, List.nodup_append']
    refine ⟨h.nodup, hbelow.nodup_iff.mpr List.nodup_range', fun id hold hnew => ?_⟩
    exact absurd (h.mem_lt hold) (Nat.not_lt.mpr (List.mem_range'_1.mp (hbelow.mem_iff.mp hnew)).1)

/-! ## Copies of a path -/

theorem perm_cons_eraseIdx {children : List NodeId} {index : Nat} {child : NodeId}
    (h : children[index]? = some child) : children.Perm (child :: children.eraseIdx index) := by
  obtain ⟨hlt, rfl⟩ := List.getElem?_eq_some_iff.mp h
  exact (List.getElem_cons_eraseIdx_perm hlt).symm

private theorem PathCopy.nodesBelow {copy : NodeId}
    (h : PathCopy before after replacement root path copy) (hwell : before.WellFormed)
    (hgrowth : after.Extends before) (hafter : after.ChildrenFirst) (hroot : root < before.size)
    (hreplacement : replacement < before.size)
    (hresolve : before.resolve? root path = some target) :
    ∃ above beside : List NodeId,
      (before.nodesBelow root).Perm (above ++ beside ++ before.nodesBelow target) ∧
        (after.nodesBelow copy).Perm
          (List.range' before.size path.length ++ beside ++ before.nodesBelow replacement) := by
  induction h with
  | target root =>
      cases hresolve
      exact ⟨[], [], .refl _, .of_eq (hgrowth.nodesBelow hwell hafter hreplacement)⟩
  | @step root child copy index rest hchild _ hnode ih =>
      obtain ⟨other, hother, hrest⟩ := Option.bind_eq_some_iff.mp hresolve
      cases hchild.symm.trans hother
      have hlt (sibling : NodeId) (h : sibling ∈ before.childrenOf root) : sibling < before.size :=
        Nat.lt_trans (hwell.childrenOf_lt h) hroot
      obtain ⟨above, beside, hbelow, hcopied⟩ := ih (hlt child (List.mem_of_getElem? hchild)) hrest
      let siblings := (before.childrenOf root).eraseIdx index
      have hsiblings : siblings.flatMap after.nodesBelow = siblings.flatMap before.nodesBelow :=
        List.flatMap_congr fun sibling h => hgrowth.nodesBelow hwell hafter
          (hlt sibling (List.mem_of_mem_eraseIdx h))
      have hold := (perm_cons_eraseIdx hchild).flatMap_right before.nodesBelow
      have hindex := (List.getElem?_eq_some_iff.mp hchild).1
      have hnew := (List.set_perm_cons_eraseIdx hindex copy).flatMap_right after.nodesBelow
      rw [List.flatMap_cons] at hold hnew
      refine ⟨root :: above, siblings.flatMap before.nodesBelow ++ beside, ?_, ?_⟩
      · rw [nodesBelow_eq hwell.childrenFirst]
        refine List.perm_iff_count.mpr fun id => ?_
        have := hold.count_eq id
        have := hbelow.count_eq id
        simp only [List.count_append, List.count_cons, siblings] at *
        omega
      · rw [nodesBelow_eq hafter, childrenOf_of_node? hnode, List.length_cons,
          List.range'_1_concat]
        refine List.perm_iff_count.mpr fun id => ?_
        have := hnew.count_eq id
        have := hcopied.count_eq id
        rw [← hsiblings]
        simp only [List.count_append, List.count_cons, List.count_nil, siblings] at *
        omega

/-! ## A changed node -/

section Changed

variable {shape : Shape} {children given taken : List NodeId} {copy : NodeId}

theorem changed_lt (h : arena.Apart (root :: given))
    (hresolve : arena.resolve? root path = some target)
    (hchildren : (children ++ taken).Perm (arena.childrenOf target ++ given)) :
    ∀ id ∈ children ++ taken, id < arena.size := by
  intro id hid
  rcases List.mem_append.mp (hchildren.subset hid) with hid | hid
  · exact Nat.lt_trans (h.wellFormed.childrenOf_lt hid)
      (resolve?_lt h.wellFormed h.lt_size hresolve)
  · exact h.ids_lt id (List.mem_cons_of_mem root hid)

/-- The nodes that were below the root and the given ones, apart from those on the path, are below
the copy and the taken ones, and all others are new. -/
theorem perm_nodesBelow_relinked (h : arena.Apart (root :: given))
    (hresolve : arena.resolve? root path = some target)
    (hchildren : (children ++ taken).Perm (arena.childrenOf target ++ given))
    (hchanged : (arena.push ⟨shape, children⟩).WellFormed) (hafter : after.WellFormed)
    (hgrowth : after.Extends (arena.push ⟨shape, children⟩))
    (hcopy : PathCopy (arena.push ⟨shape, children⟩) after arena.size root path copy) :
    ∃ lost kept : List NodeId,
      ((root :: given).flatMap arena.nodesBelow).Perm (lost ++ kept) ∧
        ((copy :: taken).flatMap after.nodesBelow).Perm
          (List.range' arena.size (path.length + 1) ++ kept) := by
  have hwell := h.wellFormed
  have hpush := Extends.push arena ⟨shape, children⟩
  have htarget := resolve?_lt hwell h.lt_size hresolve
  have hnode := hchanged arena.size _ (node?_push_size arena _)
  have hlt := changed_lt h hresolve hchildren
  rw [← hpush.resolve? hwell h.lt_size] at hresolve
  obtain ⟨above, beside, hbelow, hcopied⟩ := hcopy.nodesBelow hchanged hgrowth hafter.childrenFirst
    (Nat.lt_of_lt_of_le h.lt_size hpush.size_le) (by simp) hresolve
  rw [hpush.nodesBelow hwell hchanged.childrenFirst h.lt_size,
    hpush.nodesBelow hwell hchanged.childrenFirst htarget,
    nodesBelow_eq hwell.childrenFirst target] at hbelow
  rw [nodesBelow_push _ hwell hnode, size_push] at hcopied
  have htakenBelow : taken.flatMap after.nodesBelow = taken.flatMap arena.nodesBelow :=
    List.flatMap_congr fun id hid => (hgrowth.trans hpush).nodesBelow hwell hafter.childrenFirst
      (hlt id (List.mem_append_right children hid))
  have hmoved := hchildren.flatMap_right arena.nodesBelow
  simp only [List.flatMap_append] at hmoved
  refine ⟨above ++ [target],
    beside ++ ((arena.childrenOf target).flatMap arena.nodesBelow ++
      given.flatMap arena.nodesBelow), ?_, ?_⟩
  · refine List.perm_iff_count.mpr fun id => ?_
    have := hbelow.count_eq id
    simp only [List.flatMap_cons, List.count_append, List.count_cons, List.count_nil] at *
    omega
  · rw [List.flatMap_cons, htakenBelow, List.range'_succ]
    refine List.perm_iff_count.mpr fun id => ?_
    have := hcopied.count_eq id
    have := hmoved.count_eq id
    simp only [List.count_append, List.count_cons] at *
    omega

/-- A new node takes the place of the one at the path.  Its children are those of the old one, with
`given` ones among them and without `taken` ones. -/
theorem Apart.relink (h : arena.Apart (root :: given))
    (hresolve : arena.resolve? root path = some target)
    (hchildren : (children ++ taken).Perm (arena.childrenOf target ++ given))
    (hleaf : shape.isContainer = false → children = []) :
    ∃ copy after, (relink? root arena.size path).run (arena.push ⟨shape, children⟩) =
      (some copy, after) ∧ after.Apart (copy :: taken) := by
  have hwell := h.wellFormed
  have hlt := changed_lt h hresolve hchildren
  have hpush := Extends.push arena ⟨shape, children⟩
  have hchanged : (arena.push ⟨shape, children⟩).WellFormed :=
    wellFormed_push hwell ⟨fun id hid => hlt id (List.mem_append_left taken hid), hleaf⟩
  have hpushed : (arena.push ⟨shape, children⟩).resolve? root path = some target := by
    rw [hpush.resolve? hwell h.lt_size, hresolve]
  obtain ⟨copy, after, hrun, -, hcopy⟩ := pathCopy_relink? arena.size hpushed
  have hnew : arena.size < (arena.push ⟨shape, children⟩).size := by simp
  obtain ⟨copy', after', hrun', hholds⟩ :=
    holds_relink? (Nat.lt_trans h.lt_size hnew) (.single hchanged hnew) hpushed
  cases hrun.symm.trans hrun'
  have hgrowth : after.Extends (arena.push ⟨shape, children⟩) := by
    simpa [hrun] using extends_relink? root arena.size path (arena.push ⟨shape, children⟩)
  obtain ⟨lost, kept, hbefore, hafter⟩ := perm_nodesBelow_relinked h hresolve hchildren hchanged
    hholds.wellFormed hgrowth hcopy
  refine ⟨copy, after, hrun, hholds.wellFormed, ?_, ?_⟩
  · intro id hid
    rcases List.mem_cons.mp hid with rfl | hid
    · exact hholds.lt_size
    · exact Nat.lt_of_lt_of_le (hlt id (List.mem_append_right children hid))
        (hgrowth.trans hpush).size_le
  · rw [hafter.nodup_iff, List.nodup_append']
    refine ⟨List.nodup_range', (hbefore.nodup_iff.mp h.nodup).of_append_right, ?_⟩
    intro id hnew hkept
    have hold := h.mem_lt (hbefore.mem_iff.mpr (List.mem_append_right lost hkept))
    exact absurd hold (Nat.not_lt.mpr (List.mem_range'_1.mp hnew).1)

end Changed

end DocTemplate.Arena

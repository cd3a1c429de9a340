import DocTemplate.Edit.Compaction
import DocTemplate.Proofs.Arena.WellFormed

/-!
# Compaction keeps trees

The flags that mark nodes in use hold all roots and are closed under children.  A marked node moves
to the number of marked nodes in front of it, so the order of marked nodes stays and every marked
tree is carried over.
-/

namespace DocTemplate.Arena

/-! ## Marks -/

namespace Flags

theorem lt_size_of_has {flags : Flags} {id : NodeId} (h : flags.has id = true) :
    id < flags.size := by
  by_contra hge
  rw [has, Array.getD_eq_getD_getElem?, Array.getElem?_eq_none (Nat.le_of_not_lt hge)] at h
  cases h

private theorem has_setIfInBounds (flags : Flags) (marked id : NodeId) :
    has (flags.setIfInBounds marked true) id =
      (flags.has id || (id == marked && decide (id < flags.size))) := by
  rw [has, has, Array.getD_eq_getD_getElem?, Array.getD_eq_getD_getElem?,
    Array.getElem?_setIfInBounds]
  by_cases heq : marked = id
  · subst heq
    by_cases hlt : marked < flags.size <;> simp [hlt]
  · have hne : (id == marked) = false := by simpa using fun h => heq h.symm
    simp [heq, hne]

@[simp] theorem size_mark (flags : Flags) (ids : List NodeId) :
    (flags.mark ids).size = flags.size := by
  induction ids generalizing flags with
  | nil => rfl
  | cons id rest ih =>
      rw [mark, List.foldl_cons]
      exact (ih _).trans Array.size_setIfInBounds

theorem has_mark_iff (flags : Flags) (ids : List NodeId) (id : NodeId) :
    (flags.mark ids).has id = true ↔ flags.has id = true ∨ (id ∈ ids ∧ id < flags.size) := by
  induction ids generalizing flags with
  | nil => simp [mark]
  | cons marked rest ih =>
      have hstep := ih (flags.setIfInBounds marked true)
      rw [has_setIfInBounds, Array.size_setIfInBounds] at hstep
      rw [mark, List.foldl_cons]
      refine hstep.trans ?_
      simp only [Bool.or_eq_true, Bool.and_eq_true, beq_iff_eq, decide_eq_true_eq, List.mem_cons]
      constructor
      · rintro ((h | h) | h)
        · exact .inl h
        · exact .inr ⟨.inl h.1, h.2⟩
        · exact .inr ⟨.inr h.1, h.2⟩
      · rintro (h | ⟨h | h, hlt⟩)
        · exact .inl (.inl h)
        · exact .inl (.inr ⟨h, hlt⟩)
        · exact .inr ⟨h, hlt⟩

end Flags

/-! ## The sweep -/

@[simp] theorem size_sweep (arena : Arena) (count : Nat) (flags : Flags) :
    (arena.sweep count flags).size = flags.size := by
  induction count generalizing flags with
  | zero => rfl
  | succ id ih =>
      rw [sweep, ih]
      split <;> simp

theorem has_sweep_of_has {arena : Arena} {flags : Flags} {id : NodeId} (count : Nat)
    (h : flags.has id = true) : (arena.sweep count flags).has id = true := by
  induction count generalizing flags with
  | zero => exact h
  | succ swept ih =>
      rw [sweep]
      apply ih
      split
      · exact (Flags.has_mark_iff ..).mpr (.inl h)
      · exact h

private theorem has_of_has_sweep {arena : Arena} (hfirst : arena.ChildrenFirst) {flags : Flags}
    {id : NodeId} {count : Nat} (hcount : count ≤ id)
    (h : (arena.sweep count flags).has id = true) : flags.has id = true := by
  induction count generalizing flags with
  | zero => exact h
  | succ swept ih =>
      rw [sweep] at h
      have hmarked := ih (by omega) h
      split at hmarked
      · rcases (Flags.has_mark_iff ..).mp hmarked with hbefore | ⟨hchild, -⟩
        · exact hbefore
        · exact absurd (hfirst swept id hchild) (Nat.not_lt.mpr (Nat.le_of_succ_le hcount))
      · exact hmarked

private theorem sweep_closed {arena : Arena} (hfirst : arena.ChildrenFirst) {flags : Flags}
    (hsize : flags.size = arena.size) {count : Nat} {id child : NodeId} (hid : id < count)
    (h : (arena.sweep count flags).has id = true) (hchild : child ∈ arena.childrenOf id) :
    (arena.sweep count flags).has child = true := by
  induction count generalizing flags with
  | zero => exact absurd hid (Nat.not_lt_zero id)
  | succ swept ih =>
      rw [sweep] at h ⊢
      rcases Nat.lt_or_eq_of_le (Nat.lt_succ_iff.mp hid) with hlt | rfl
      · refine ih ?_ hlt h
        split <;> simpa using hsize
      · have hmarked := has_of_has_sweep hfirst (Nat.le_refl id) h
        apply has_sweep_of_has
        -- the node itself is not among its children, so it was marked before
        have hbefore : flags.has id = true := by
          split at hmarked
          · next hhas => exact hhas
          · exact hmarked
        rw [if_pos hbefore]
        refine (Flags.has_mark_iff ..).mpr (.inr ⟨hchild, ?_⟩)
        exact Nat.lt_trans (hfirst id child hchild) (Flags.lt_size_of_has hbefore)

@[simp] theorem size_inUse (arena : Arena) (roots : List NodeId) :
    (arena.inUse roots).size = arena.size := by
  simp [inUse]

theorem inUse_root {arena : Arena} {roots : List NodeId} {root : NodeId} (hmem : root ∈ roots)
    (hroot : root < arena.size) : (arena.inUse roots).has root = true := by
  apply has_sweep_of_has
  refine (Flags.has_mark_iff ..).mpr (.inr ⟨hmem, ?_⟩)
  simpa using hroot

theorem inUse_closed {arena : Arena} (hfirst : arena.ChildrenFirst) {roots : List NodeId}
    {id child : NodeId} (h : (arena.inUse roots).has id = true)
    (hchild : child ∈ arena.childrenOf id) : (arena.inUse roots).has child = true := by
  have hid := Flags.lt_size_of_has h
  rw [size_inUse] at hid
  exact sweep_closed hfirst (by simp) hid h hchild

/-! ## New positions -/

def rank (flags : List Bool) (position : Nat) : Nat := (flags.take position).count true

private theorem getElem?_positionsFrom (start : Nat) {flags : List Bool} {position : Nat}
    (h : position < flags.length) :
    (positionsFrom start flags)[position]? = some (start + rank flags position) := by
  induction flags generalizing start position with
  | nil => simp at h
  | cons flag rest ih =>
      cases position with
      | zero => simp [positionsFrom, rank]
      | succ position =>
          have hrest := ih (if flag then start + 1 else start) (Nat.lt_of_succ_lt_succ h)
          rw [positionsFrom, List.getElem?_cons_succ, hrest]
          cases flag with
          | false => simp [rank]
          | true =>
              simp only [rank, if_true, List.take_succ_cons, List.count_cons_self]
              congr 1
              omega

private theorem rank_lt_rank {flags : List Bool} {position later : Nat}
    (hmarked : flags[position]? = some true) (hlt : position < later) :
    rank flags position < rank flags later := by
  have hsucc : rank flags (position + 1) = rank flags position + 1 := by
    simp [rank, List.take_add_one, hmarked]
  have hle : rank flags (position + 1) ≤ rank flags later :=
    (List.take_sublist_take_left hlt).count_le true
  omega

def pack {α β : Type} (write : α → β) (entries : List α) (flags : List Bool) : List β :=
  (entries.zip flags).filterMap fun (entry, flag) => if flag then some (write entry) else none

theorem getElem?_pack {α β : Type} {write : α → β} {entries : List α} {flags : List Bool}
    {position : Nat} {entry : α} (hmarked : flags[position]? = some true)
    (hentry : entries[position]? = some entry) :
    (pack write entries flags)[rank flags position]? = some (write entry) := by
  induction flags generalizing entries position with
  | nil => simp at hmarked
  | cons flag flags ih =>
      cases entries with
      | nil => simp at hentry
      | cons head entries =>
          cases position with
          | zero =>
              cases hmarked
              cases hentry
              simp [pack, rank]
          | succ position =>
              have hrest := ih hmarked hentry
              cases flag <;> simpa [pack, rank] using hrest

theorem exists_of_getElem?_pack {α β : Type} {write : α → β} {entries : List α}
    {flags : List Bool} {place : Nat} {result : β}
    (h : (pack write entries flags)[place]? = some result) :
    ∃ position entry, flags[position]? = some true ∧ entries[position]? = some entry ∧
      rank flags position = place ∧ write entry = result := by
  induction flags generalizing entries place with
  | nil => simp [pack] at h
  | cons flag flags ih =>
      cases entries with
      | nil => simp [pack] at h
      | cons head entries =>
          cases flag with
          | false =>
              obtain ⟨position, entry, hmarked, hentry, hrank, hresult⟩ := ih h
              exact ⟨position + 1, entry, hmarked, hentry, by simpa [rank] using hrank, hresult⟩
          | true =>
              cases place with
              | zero =>
                  refine ⟨0, head, rfl, rfl, rfl, ?_⟩
                  simpa [pack] using h
              | succ place =>
                  obtain ⟨position, entry, hmarked, hentry, hrank, hresult⟩ := ih h
                  exact ⟨position + 1, entry, hmarked, hentry, by simpa [rank] using hrank,
                    hresult⟩

/-! ## The compacted arena -/

section Compact

variable (arena : Arena) (roots : List NodeId)

def moved (node : Node) : Node :=
  { node with children := node.children.map (arena.compact roots).renumber }

theorem compact_nodes :
    (arena.compact roots).arena.nodes =
      (pack (moved arena roots) arena.nodes.toList (arena.inUse roots).toList).toArray := rfl

variable {arena} {roots}

theorem getElem?_inUse_of_has {id : NodeId} (h : (arena.inUse roots).has id = true) :
    (arena.inUse roots).toList[id]? = some true := by
  have hlt := Flags.lt_size_of_has h
  rw [Flags.has, Array.getD_eq_getD_getElem?, Array.getElem?_eq_getElem hlt] at h
  rw [Array.getElem?_toList, Array.getElem?_eq_getElem hlt]
  simpa using h

theorem has_inUse_of_getElem? {id : NodeId} (h : (arena.inUse roots).toList[id]? = some true) :
    (arena.inUse roots).has id = true := by
  rw [Array.getElem?_toList] at h
  simp [Flags.has, Array.getD_eq_getD_getElem?, h]

theorem renumber_of_has {id : NodeId} (h : (arena.inUse roots).has id = true) :
    (arena.compact roots).renumber id = rank (arena.inUse roots).toList id := by
  have hlt : id < (arena.inUse roots).toList.length := by
    simpa using Flags.lt_size_of_has h
  have hposition := getElem?_positionsFrom 0 hlt
  simp only [compact, h, if_true, Array.getD_eq_getD_getElem?, List.getElem?_toArray, hposition,
    Option.getD_some, Nat.zero_add]

theorem node?_compact {id : NodeId} {node : Node} (h : (arena.inUse roots).has id = true)
    (hnode : arena.node? id = some node) :
    (arena.compact roots).arena.node? ((arena.compact roots).renumber id) =
      some (moved arena roots node) := by
  rw [node?, compact_nodes, renumber_of_has h, List.getElem?_toArray]
  apply getElem?_pack (getElem?_inUse_of_has h)
  rwa [Array.getElem?_toList]

theorem carries_compact (hfirst : arena.ChildrenFirst) :
    Carries (arena.compact roots).renumber (fun id => (arena.inUse roots).has id = true) arena
      (arena.compact roots).arena := by
  have hnode : ∀ id, (arena.inUse roots).has id = true → ∃ node, arena.node? id = some node := by
    intro id hid
    apply node?_isSome_iff.mpr
    simpa using Flags.lt_size_of_has hid
  constructor
  · exact fun id hid child hchild => inUse_closed hfirst hid hchild
  · intro id hid
    obtain ⟨node, hnode⟩ := hnode id hid
    rw [shapeOf_of_node? (node?_compact hid hnode), shapeOf_of_node? hnode]
    rfl
  · intro id hid
    obtain ⟨node, hnode⟩ := hnode id hid
    rw [childrenOf_of_node? (node?_compact hid hnode), childrenOf_of_node? hnode]
    rfl

theorem exists_of_node?_compact {place : NodeId} {result : Node}
    (h : (arena.compact roots).arena.node? place = some result) :
    ∃ id node, (arena.inUse roots).has id = true ∧ arena.node? id = some node ∧
      (arena.compact roots).renumber id = place ∧ moved arena roots node = result := by
  rw [node?, compact_nodes, List.getElem?_toArray] at h
  obtain ⟨id, node, hmarked, hnode, hrank, hresult⟩ := exists_of_getElem?_pack h
  rw [Array.getElem?_toList] at hnode
  have hused := has_inUse_of_getElem? hmarked
  exact ⟨id, node, hused, hnode, (renumber_of_has hused).trans hrank, hresult⟩

private theorem renumber_lt_renumber {first second : NodeId}
    (hfirst : (arena.inUse roots).has first = true)
    (hsecond : (arena.inUse roots).has second = true) (hlt : first < second) :
    (arena.compact roots).renumber first < (arena.compact roots).renumber second := by
  rw [renumber_of_has hfirst, renumber_of_has hsecond]
  exact rank_lt_rank (getElem?_inUse_of_has hfirst) hlt

theorem childrenFirst_compact (hfirst : arena.ChildrenFirst) :
    (arena.compact roots).arena.ChildrenFirst := by
  intro place child hchild
  cases hresult : (arena.compact roots).arena.node? place with
  | none => simp [childrenOf, hresult] at hchild
  | some result =>
      rw [childrenOf_of_node? hresult] at hchild
      obtain ⟨id, node, hused, hnode, rfl, rfl⟩ := exists_of_node?_compact hresult
      obtain ⟨old, hold, rfl⟩ := List.mem_map.mp hchild
      rw [← childrenOf_of_node? hnode] at hold
      exact renumber_lt_renumber (inUse_closed hfirst hused hold) hused (hfirst id old hold)

theorem wellFormed_compact (hwell : arena.WellFormed) :
    (arena.compact roots).arena.WellFormed := by
  intro place result hresult
  constructor
  · rw [← childrenOf_of_node? hresult]
    exact childrenFirst_compact hwell.childrenFirst place
  · obtain ⟨id, node, -, hnode, rfl, rfl⟩ := exists_of_node?_compact hresult
    intro hleaf
    simp [moved, (hwell id node hnode).leaf hleaf]

theorem build_compact (hfirst : arena.ChildrenFirst) {root : NodeId} (hmem : root ∈ roots)
    (hroot : root < arena.size) :
    (arena.compact roots).arena.build ((arena.compact roots).renumber root) = arena.build root :=
  build_of_carries (carries_compact hfirst) hfirst (childrenFirst_compact hfirst)
    (inUse_root hmem hroot)

theorem renumber_lt {root : NodeId} (hmem : root ∈ roots) (hroot : root < arena.size) :
    (arena.compact roots).renumber root < (arena.compact roots).arena.size := by
  obtain ⟨node, hnode⟩ := node?_isSome_iff.mpr hroot
  exact node?_isSome_iff.mp ⟨_, node?_compact (inUse_root hmem hroot) hnode⟩

end Compact

end DocTemplate.Arena

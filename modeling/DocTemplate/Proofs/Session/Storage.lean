import DocTemplate.Proofs.Arena.Traversal
import DocTemplate.Proofs.Edit.Unshared
import DocTemplate.Proofs.Session.Run

/-!
# How a session stores its snapshots

All snapshots of a session are trees in one arena.  Each of them is unshared in itself, whatever
nodes it has in common with the others: this is so at the start, edits keep it for the snapshot they
record, and a compaction carries it over for all snapshots at once.
-/

namespace DocTemplate

namespace History

variable {history after : History}

/-! ## Histories -/

/-- No node is met twice in a snapshot. -/
def Unshared (history : History) : Prop :=
  ∀ entry ∈ history.entries, history.arena.Apart [entry.root]

theorem Unshared.current (h : history.Unshared) : history.arena.Apart [history.current.root] :=
  h history.current (mem_entries.mpr (.inr (.inl rfl)))

private theorem Unshared.of_entries (h : history.Unshared) (harena : after.arena = history.arena)
    (hentries : after.entries = history.entries) : after.Unshared := by
  intro entry hentry
  rw [hentries] at hentry
  rw [harena]
  exact h entry hentry

private theorem Unshared.grow {arena : Arena} (h : history.Unshared)
    (hgrowth : arena.Extends history.arena) (hwell : arena.WellFormed) :
    ({ history with arena } : History).Unshared :=
  fun entry hentry => (h entry hentry).grow hgrowth hwell

private theorem Unshared.compactWhenDue (h : history.Unshared) :
    history.compactWhenDue.Unshared := by
  rw [History.compactWhenDue]
  split
  · exact h
  · intro entry hentry
    change entry ∈ history.compact.2.entries at hentry
    rw [entries_compact] at hentry
    obtain ⟨old, hold, rfl⟩ := List.mem_map.mp hentry
    apply (h old hold).compact
    simpa using ⟨old, hold, rfl⟩

private theorem Unshared.recorded {root : NodeId} (h : history.Unshared)
    (hroot : history.arena.Apart [root]) (tokens : DesignTokens) (label : String) :
    (history.recorded root tokens label).Unshared := by
  intro entry hentry
  rcases mem_entries.mp hentry with hpast | rfl | hfuture
  · simp only [History.recorded] at hpast
    split at hpast
    · exact h entry (mem_entries.mpr (.inl hpast))
    · rcases List.mem_cons.mp ((capped_isPrefix _ _ _).subset hpast) with rfl | hpast
      · exact h.current
      · exact h entry (mem_entries.mpr (.inl hpast))
  · exact hroot
  · cases hfuture

private theorem Unshared.record {root : NodeId} (h : history.Unshared) (hwell : history.WellFormed)
    (hroot : history.arena.Apart [root]) (tokens : DesignTokens) (label : String) :
    (history.record root tokens label).Unshared := by
  have hrecorded := h.recorded hroot tokens label
  rcases record_eq root tokens label hwell with hrecord | hrecord
  · rwa [hrecord]
  · rw [hrecord]
    exact hrecorded.compactWhenDue

end History

namespace Session

variable {session : Session}

/-! ## Sessions -/

theorem unshared_start (document : Document) (limit : Nat) :
    (start document limit).history.Unshared := by
  intro entry hentry
  obtain rfl : entry = _ := List.mem_singleton.mp hentry
  exact (Arena.Apart.nil Arena.wellFormed_empty).insertTree document.template

theorem unshared_apply (hwell : session.history.WellFormed) (h : session.history.Unshared)
    (edit : Edit) : (session.apply edit).2.history.Unshared := by
  rw [apply]
  cases happly : edit.applyTo session.history.arena session.history.current.root with
  | mk result arena =>
      cases result with
      | error error =>
          obtain rfl := Edit.eq_of_applyTo_error happly
          exact h
      | ok root =>
          have hroot := Edit.apart_applyTo h.current happly
          have hgrowth := Edit.applyTo_extends happly
          exact (h.grow hgrowth hroot.wellFormed).record
            (History.agrees_grow hwell hgrowth hroot.wellFormed).wellFormed hroot _ _

private theorem unshared_tryApply (hwell : session.history.WellFormed)
    (h : session.history.Unshared) (edit : Edit) : (session.tryApply edit).2.history.Unshared := by
  have happly := unshared_apply hwell h edit
  rw [tryApply_eq]
  split
  · next heq => rwa [heq] at happly
  · next heq => rwa [heq] at happly

private theorem unshared_step (hwell : session.history.WellFormed) (h : session.history.Unshared)
    (op : SessionOp) : (session.step op).2.history.Unshared := by
  cases op with
  | edit edit => exact unshared_apply hwell h edit
  | editText text =>
      rw [step, applyText_eq]
      cases text.edit? with
      | none => exact h
      | some edit => exact unshared_tryApply hwell h edit
  | updateTokens tokens => exact unshared_tryApply hwell h (.updateTokens tokens)
  | undo =>
      have hmoved := History.moved_undo session.history
      exact h.of_entries hmoved.arena hmoved.entries
  | redo =>
      have hmoved := History.moved_redo session.history
      exact h.of_entries hmoved.arena hmoved.entries
  | beginBatch label => exact h.of_entries rfl rfl
  | endBatch => exact h.of_entries rfl rfl

theorem unshared_after (hwell : session.history.WellFormed) (h : session.history.Unshared)
    (ops : List SessionOp) : (session.after ops).history.Unshared := by
  induction ops generalizing session with
  | nil => exact h
  | cons op ops ih => exact ih (wellFormed_step hwell op) (unshared_step hwell h op)

end Session

/-! ## Storage -/

/-- Roots are nodes of the arena, and children stand in front of their parents.  A node has no
elements in itself, and none below it unless it is a container.  Below a root there is one path to
each node.  A tree is built and measured, and the nodes in use are marked, without a look at a
position that is out of range. -/
structure Arena.Sound (arena : Arena) (roots : List NodeId) : Prop where
  root_lt : ∀ root ∈ roots, root < arena.size
  child_lt : ∀ id node, arena.node? id = some node → ∀ child ∈ node.children, child < id
  detached : ∀ id node, arena.node? id = some node → (node.shape.element []).children = []
  leaf : ∀ id node, arena.node? id = some node →
    node.shape.isContainer = false → node.children = []
  path_unique : ∀ root ∈ roots, ∀ id path other, arena.resolve? root path = some id →
    arena.resolve? root other = some id → path = other
  build : ∀ id < arena.size, arena.fold? Shape.element (id + 1) id = some (arena.build id)
  subtreeSize : ∀ id < arena.size,
    arena.fold? (fun _ sizes => 1 + sizes.foldr (· + ·) 0) (id + 1) id = some (arena.subtreeSize id)
  nodeCount : ∀ id < arena.size, (arena.build id).nodeCount = arena.subtreeSize id
  marked : ∃ steps marked, arena.collect? steps roots.reverse [] = some marked ∧
    ∀ id, id ∈ marked ↔ (arena.inUse roots).has id = true

theorem Arena.sound_of_apart {arena : Arena} {roots : List NodeId} (hwell : arena.WellFormed)
    (h : ∀ root ∈ roots, arena.Apart [root]) : arena.Sound roots where
  root_lt root hroot := (h root hroot).lt_size
  child_lt id node hnode := (hwell id node hnode).children_lt
  detached id node _ := by cases node.shape <;> rfl
  leaf id node hnode := (hwell id node hnode).leaf
  path_unique root hroot _ _ _ := (h root hroot).path_unique
  build id hid := fold?_eq_some hwell (build_eq hwell.childrenFirst) hid (Nat.lt_succ_self id)
  subtreeSize id hid :=
    fold?_eq_some hwell (subtreeSize_eq hwell.childrenFirst) hid (Nat.lt_succ_self id)
  nodeCount id _ := nodeCount_build hwell id
  marked := by
    have hroots : ∀ root ∈ roots, root < arena.size := fun root hroot => (h root hroot).lt_size
    obtain ⟨steps, marked, hrun, hmarked⟩ :=
      exists_collect? hwell.childrenFirst hroots (.start arena roots)
    exact ⟨steps, marked, hrun, fun id =>
      (hmarked id).trans (has_inUse_iff hwell.childrenFirst hroots).symm⟩

/-- Whatever the operations of a session are, its arena is sound for the roots of all snapshots. -/
theorem Session.arena_is_sound (document : Document) (limit : Nat) (ops : List SessionOp) :
    let history := ((start document limit).after ops).history
    history.arena.Sound (history.entries.map Entry.root) := by
  intro history
  have hstart := wellFormed_start document limit
  have hwell : history.WellFormed := wellFormed_after hstart ops
  have hunshared : history.Unshared := unshared_after hstart (unshared_start document limit) ops
  refine Arena.sound_of_apart hwell.arena ?_
  intro root hroot
  obtain ⟨entry, hentry, rfl⟩ := List.mem_map.mp hroot
  exact hunshared entry hentry

end DocTemplate

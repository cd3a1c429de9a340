import DocTemplate.Edit.History
import DocTemplate.Proofs.Arena.Compaction
import DocTemplate.Proofs.History.Trail

/-!
# Histories by value

Two histories agree when they have the same trail, limit and batch, whatever their nodes are.  A
history agrees with itself after its arena has grown and after it has been compacted.
-/

namespace DocTemplate.History

/-! ## The trail of a history -/

def snapshotOf (history : History) (entry : Entry) : Snapshot :=
  ⟨⟨history.arena.build entry.root, entry.tokens⟩, entry.label⟩

def trail (history : History) : Trail where
  past := history.past.map history.snapshotOf
  current := history.snapshotOf history.current
  future := history.future.map history.snapshotOf

def snapshots (history : History) : List Snapshot := history.entries.map history.snapshotOf

theorem snapshots_eq (history : History) : history.snapshots = history.trail.snapshots := by
  simp [snapshots, entries, trail, Trail.snapshots]

@[simp] theorem length_past_trail (history : History) :
    history.trail.past.length = history.cursor := by
  simp [trail, cursor]

/-! ## Well-formed histories -/

structure WellFormed (history : History) : Prop where
  arena : history.arena.WellFormed
  root_lt : ∀ entry ∈ history.entries, entry.root < history.arena.size
  bounded : history.limit = 0 ∨ history.length ≤ history.limit

theorem mem_entries {history : History} {entry : Entry} :
    entry ∈ history.entries ↔
      entry ∈ history.past ∨ entry = history.current ∨ entry ∈ history.future := by
  simp [entries]

theorem WellFormed.current_lt {history : History} (h : history.WellFormed) :
    history.current.root < history.arena.size :=
  h.root_lt history.current (mem_entries.mpr (.inr (.inl rfl)))

theorem WellFormed.of_entries {history after : History} (h : history.WellFormed)
    (harena : after.arena = history.arena) (hentries : after.entries = history.entries)
    (hlimit : after.limit = history.limit) : after.WellFormed where
  arena := by rw [harena]; exact h.arena
  root_lt := by rw [harena, hentries]; exact h.root_lt
  bounded := by
    rw [hlimit, ← length_entries, hentries, length_entries]
    exact h.bounded

/-! ## Agreement -/

structure Agrees (after before : History) : Prop where
  wellFormed : after.WellFormed
  trail : after.trail = before.trail
  limit : after.limit = before.limit
  batch : after.batch = before.batch

theorem Agrees.refl {history : History} (h : history.WellFormed) : history.Agrees history :=
  ⟨h, rfl, rfl, rfl⟩

theorem trail_congr {history after : History} {renew : Entry → Entry}
    (hpast : after.past = history.past.map renew) (hcurrent : after.current = renew history.current)
    (hfuture : after.future = history.future.map renew)
    (h : ∀ entry ∈ history.entries, after.snapshotOf (renew entry) = history.snapshotOf entry) :
    after.trail = history.trail := by
  rw [trail, trail, hpast, hcurrent, hfuture, List.map_map, List.map_map]
  congr 1
  · apply List.map_congr_left
    intro entry hentry
    exact h entry (mem_entries.mpr (.inl hentry))
  · exact h history.current (mem_entries.mpr (.inr (.inl rfl)))
  · apply List.map_congr_left
    intro entry hentry
    exact h entry (mem_entries.mpr (.inr (.inr hentry)))

variable {history : History}

theorem agrees_grow {arena : Arena} (h : history.WellFormed)
    (hgrowth : arena.Extends history.arena) (hwell : arena.WellFormed) :
    ({ history with arena } : History).Agrees history where
  wellFormed :=
    { arena := hwell
      root_lt := fun entry hentry => Nat.lt_of_lt_of_le (h.root_lt entry hentry) hgrowth.size_le
      bounded := h.bounded }
  trail := by
    have hsame : ∀ entry ∈ history.entries,
        ({ history with arena } : History).snapshotOf (id entry) = history.snapshotOf entry := by
      intro entry hentry
      rw [snapshotOf, snapshotOf, id, hgrowth.build h.arena hwell (h.root_lt entry hentry)]
    exact trail_congr (List.map_id history.past).symm rfl (List.map_id history.future).symm hsame
  limit := rfl
  batch := rfl

theorem entries_compact (history : History) :
    history.compact.2.entries = history.entries.map
      (Entry.renumber (history.arena.compact (history.entries.map Entry.root)).renumber) := by
  simp [compact, entries]

private theorem agrees_compact (h : history.WellFormed) : history.compact.2.Agrees history where
  wellFormed :=
    { arena := Arena.wellFormed_compact h.arena
      root_lt := by
        intro entry hentry
        rw [entries_compact] at hentry
        obtain ⟨old, hold, rfl⟩ := List.mem_map.mp hentry
        exact Arena.renumber_lt (List.mem_map_of_mem hold) (h.root_lt old hold)
      bounded := by simpa [compact, length] using h.bounded }
  trail := by
    apply trail_congr rfl rfl rfl
    intro entry hentry
    have hmem : entry.root ∈ history.entries.map Entry.root := List.mem_map_of_mem hentry
    have hbuild := Arena.build_compact h.arena.childrenFirst hmem (h.root_lt entry hentry)
    simp only [snapshotOf, compact, Entry.renumber, hbuild]
  limit := rfl
  batch := rfl

theorem agrees_compactWhenDue (h : history.WellFormed) : history.compactWhenDue.Agrees history := by
  rw [compactWhenDue]
  split
  · exact .refl h
  · have hcompact := agrees_compact h
    exact ⟨hcompact.wellFormed.of_entries rfl rfl rfl, hcompact.trail, hcompact.limit,
      hcompact.batch⟩

end DocTemplate.History

import DocTemplate.Proofs.History.Agreement

/-!
# Recording, undo and redo

What the operations of a history do to its trail.  A recorded snapshot goes behind the current one
or, within a batch, takes its place; undo and redo move along the trail.
-/

namespace DocTemplate.History

variable {history : History} {root : NodeId}

/-! ## Batches -/

def labelFor (history : History) (label : String) : String :=
  (history.batch.map Batch.label).getD label

def batchMarked (history : History) : Option Batch :=
  history.batch.map fun batch => { batch with recorded := true }

theorem future_of_extendsBatch (h : history.extendsBatch = true) : history.future = [] := by
  simp only [extendsBatch, Bool.and_eq_true, List.isEmpty_iff] at h
  exact h.1

theorem future_trail_of_extendsBatch (h : history.extendsBatch = true) :
    history.trail.future = [] := by
  rw [trail, future_of_extendsBatch h, List.map_nil]

theorem extendsBatch_of_batch (h : history.batch = none) : history.extendsBatch = false := by
  simp [extendsBatch, h]

theorem batch_of_extendsBatch (h : history.extendsBatch = true) :
    history.batchMarked = history.batch := by
  simp only [extendsBatch, Bool.and_eq_true] at h
  rw [batchMarked]
  cases hbatch : history.batch with
  | none => rfl
  | some batch =>
      have hrecorded : batch.recorded = true := by simpa [hbatch] using h.2
      rw [Option.map_some, ← hrecorded]

/-! ## Recording -/

section Record

variable (history root) (tokens : DesignTokens) (label : String)

def recorded : History :=
  { history with
    past :=
      if history.extendsBatch then history.past
      else capped history.limit 1 (history.current :: history.past)
    current := ⟨root, tokens, history.labelFor label⟩
    future := []
    batch := history.batchMarked }

def appended : History :=
  { history with
    past := history.current :: history.past
    current := ⟨root, tokens, history.labelFor label⟩
    future := []
    batch := history.batchMarked }

variable {history}

theorem overLimit_eq_false_iff :
    history.overLimit = false ↔ history.limit = 0 ∨ history.length ≤ history.limit := by
  simp only [overLimit, Bool.and_eq_false_iff, decide_eq_false_iff_not]
  omega

private theorem evict_appended (hextends : history.extendsBatch = false) :
    (if (history.appended root tokens label).overLimit then
      (history.appended root tokens label).evict else history.appended root tokens label) =
        history.recorded root tokens label := by
  have hroom : (history.appended root tokens label).overLimit = false ↔
      history.limit = 0 ∨ (history.current :: history.past).length + 1 ≤ history.limit :=
    overLimit_eq_false_iff
  cases hover : (history.appended root tokens label).overLimit with
  | true =>
      have hlimit : history.limit ≠ 0 := by
        intro hzero
        rw [hroom.mpr (.inl hzero)] at hover
        exact Bool.false_ne_true hover
      simp only [if_true, evict, appended, recorded, hextends, Bool.false_eq_true, if_false,
        capped, hlimit]
  | false =>
      have hkept := capped_eq_self (hroom.mp hover)
      simp only [Bool.false_eq_true, if_false, appended, recorded, hextends, hkept]

theorem record_eq (h : history.WellFormed) :
    history.record root tokens label = history.recorded root tokens label ∨
      history.record root tokens label =
        (history.recorded root tokens label).compactWhenDue := by
  -- a snapshot that takes the place of another one leaves no more of them than before
  cases hextends : history.extendsBatch with
  | true =>
      have hkept : history.recorded root tokens label =
          { history with current := ⟨root, tokens, history.labelFor label⟩ } := by
        simp only [recorded, hextends, if_true, batch_of_extendsBatch hextends,
          ← future_of_extendsBatch hextends]
      have hlimit :
          overLimit { history with current := ⟨root, tokens, history.labelFor label⟩ } = false :=
        overLimit_eq_false_iff.mpr h.bounded
      right
      simp only [labelFor] at hkept hlimit
      simp only [record, hextends, if_true, hkept, hlimit, Bool.true_or, Bool.false_eq_true,
        if_false]
  | false =>
      rw [← evict_appended root tokens label hextends]
      simp only [record, hextends, Bool.false_eq_true, if_false, Bool.false_or]
      split
      · exact .inr rfl
      · exact .inl rfl

private theorem wellFormed_recorded (h : history.WellFormed) (hroot : root < history.arena.size) :
    (history.recorded root tokens label).WellFormed where
  arena := h.arena
  root_lt entry hentry := by
    rcases mem_entries.mp hentry with hpast | rfl | hfuture
    · simp only [recorded] at hpast
      split at hpast
      · exact h.root_lt entry (mem_entries.mpr (.inl hpast))
      · rcases List.mem_cons.mp ((capped_isPrefix _ _ _).subset hpast) with rfl | hpast
        · exact h.current_lt
        · exact h.root_lt entry (mem_entries.mpr (.inl hpast))
    · exact hroot
    · cases hfuture
  bounded := by
    have hbounded := h.bounded
    simp only [length] at hbounded
    simp only [recorded, length, List.length_nil]
    split
    · omega
    · rw [capped]
      split
      · next hlimit => exact .inl hlimit
      · rw [List.length_take]
        omega

theorem trail_recorded :
    (history.recorded root tokens label).trail =
      if history.extendsBatch then
        history.trail.replace (history.snapshotOf ⟨root, tokens, history.labelFor label⟩)
      else history.trail.extend history.limit
        (history.snapshotOf ⟨root, tokens, history.labelFor label⟩) := by
  have hsame : (history.recorded root tokens label).snapshotOf = history.snapshotOf := rfl
  rw [trail, hsame]
  cases hextends : history.extendsBatch with
  | true => simp [trail, recorded, hextends, Trail.replace, future_of_extendsBatch hextends]
  | false => simp [trail, recorded, hextends, Trail.extend, Trail.line, map_capped]

theorem agrees_record (h : history.WellFormed) (hroot : root < history.arena.size) :
    (history.record root tokens label).Agrees (history.recorded root tokens label) := by
  have hrecorded := wellFormed_recorded root tokens label h hroot
  rcases record_eq root tokens label h with hrecord | hrecord
  · rw [hrecord]
    exact .refl hrecorded
  · rw [hrecord]
    exact agrees_compactWhenDue hrecorded

end Record

/-! ## Undo and redo -/

structure Moved (after before : History) : Prop where
  arena : after.arena = before.arena
  entries : after.entries = before.entries
  limit : after.limit = before.limit
  batch : after.batch = none

theorem moved_undo (history : History) : history.undo.2.Moved history := by
  cases hpast : history.past with
  | nil => constructor <;> simp [undo, hpast, History.entries]
  | cons entry rest => constructor <;> simp [undo, hpast, History.entries]

theorem moved_redo (history : History) : history.redo.2.Moved history := by
  cases hfuture : history.future with
  | nil => constructor <;> simp [redo, hfuture, History.entries]
  | cons entry rest => constructor <;> simp [redo, hfuture, History.entries]

theorem Moved.wellFormed {after : History} (h : after.Moved history) (hwell : history.WellFormed) :
    after.WellFormed :=
  hwell.of_entries h.arena h.entries h.limit

theorem Moved.snapshots {after : History} (h : after.Moved history) :
    after.snapshots = history.snapshots := by
  have hsame : after.snapshotOf = history.snapshotOf := by
    funext entry
    rw [snapshotOf, snapshotOf, h.arena]
  rw [History.snapshots, History.snapshots, h.entries, hsame]

theorem fst_undo (history : History) : history.undo.1 = history.canUndo := by
  rw [undo, canUndo]
  cases history.past <;> rfl

theorem fst_redo (history : History) : history.redo.1 = history.canRedo := by
  rw [redo, canRedo]
  cases history.future <;> rfl

theorem cursor_undo (history : History) : history.undo.2.cursor = history.cursor - 1 := by
  cases hpast : history.past <;> simp [undo, hpast, cursor]

theorem cursor_redo (history : History) :
    history.redo.2.cursor = if history.canRedo then history.cursor + 1 else history.cursor := by
  cases hfuture : history.future <;> simp [redo, hfuture, cursor, canRedo]

theorem trail_undo (history : History) :
    history.trail.undo = (history.undo.1, history.undo.2.trail) := by
  cases hpast : history.past <;> simp [undo, hpast, trail, Trail.undo, snapshotOf]

theorem trail_redo (history : History) :
    history.trail.redo = (history.redo.1, history.redo.2.trail) := by
  cases hfuture : history.future <;> simp [redo, hfuture, trail, Trail.redo, snapshotOf]

end DocTemplate.History

import DocTemplate.Proofs.History.Operations
import Mathlib.Data.Nat.PSub
import Mathlib.Tactic.Simps.Basic

/-!
# Ledgers

A ledger keeps the entries of a history in one list, oldest first, with the position of the current
one.  It looks entries up by position and gets from one position to another by subtraction, and an
operation that would go outside of the list or below zero has no result.  On the ledger of a history
every operation has a result, the one that the history has.
-/

namespace DocTemplate

@[ext] structure Ledger where
  arena : Arena
  /-- Oldest first. -/
  entries : List Entry
  cursor : Nat
  limit : Nat
  batch : Option Batch
  compactAt : Nat

namespace Ledger

/-! ## Views -/

def current? (ledger : Ledger) : Option Entry := ledger.entries[ledger.cursor]?

def canUndo (ledger : Ledger) : Bool := 0 < ledger.cursor

def canRedo (ledger : Ledger) : Bool := ledger.cursor + 1 < ledger.entries.length

def atTail (ledger : Ledger) : Bool := ledger.cursor + 1 = ledger.entries.length

def undoLabel? (ledger : Ledger) : Option (Option String) :=
  if ledger.canUndo then (ledger.entries[ledger.cursor]?).map fun entry => some entry.label
  else some none

def redoLabel? (ledger : Ledger) : Option (Option String) :=
  if ledger.canRedo then (ledger.entries[ledger.cursor + 1]?).map fun entry => some entry.label
  else some none

/-! ## Recording -/

def overwrite? (ledger : Ledger) (entry : Entry) : Option Ledger :=
  if ledger.cursor < ledger.entries.length then
    some { ledger with entries := ledger.entries.set ledger.cursor entry }
  else none

def append? (ledger : Ledger) (entry : Entry) : Option Ledger := do
  let entries := ledger.entries.take (ledger.cursor + 1) ++ [entry]
  let cursor ← entries.length.psub 1
  return { ledger with
    entries, cursor
    batch := ledger.batch.map fun batch => { batch with recorded := true } }

def overLimit (ledger : Ledger) : Bool :=
  0 < ledger.limit && ledger.limit < ledger.entries.length

def evict? (ledger : Ledger) : Option Ledger :=
  if ledger.overLimit then do
    let evicted ← ledger.entries.length.psub ledger.limit
    let cursor ← ledger.cursor.psub evicted
    return { ledger with entries := ledger.entries.drop evicted, cursor }
  else some ledger

def compactWhenDue (ledger : Ledger) : Ledger :=
  if ledger.arena.size < ledger.compactAt then ledger
  else
    let compaction := ledger.arena.compact (ledger.entries.map Entry.root)
    { ledger with
      arena := compaction.arena
      entries := ledger.entries.map (History.Entry.renumber compaction.renumber)
      compactAt := History.nextCompactAt compaction.arena }

def extendsBatch (ledger : Ledger) : Bool :=
  ledger.atTail && (ledger.batch.map Batch.recorded).getD false

def place? (ledger : Ledger) (entry : Entry) : Option Ledger :=
  if ledger.extendsBatch then ledger.overwrite? entry else ledger.append? entry

def record? (ledger : Ledger) (root : NodeId) (tokens : DesignTokens) (label : String) :
    Option Ledger := do
  let placed ← ledger.place? ⟨root, tokens, (ledger.batch.map Batch.label).getD label⟩
  let kept ← placed.evict?
  return if ledger.extendsBatch || !ledger.atTail || placed.overLimit then kept.compactWhenDue
    else kept

/-! ## Moving the cursor -/

def undo? (ledger : Ledger) : Option (Bool × Ledger) :=
  let closed := { ledger with batch := none }
  if ledger.canUndo then do
    let cursor ← ledger.cursor.psub 1
    return (true, { closed with cursor })
  else some (false, closed)

def redo (ledger : Ledger) : Bool × Ledger :=
  let closed := { ledger with batch := none }
  if ledger.canRedo then (true, { closed with cursor := ledger.cursor + 1 }) else (false, closed)

/-! ## Batches -/

def beginBatch (ledger : Ledger) (label : String) : Ledger :=
  { ledger with batch := some ⟨label, false⟩ }

def endBatch (ledger : Ledger) : Bool × Ledger :=
  ((ledger.batch.map Batch.recorded).getD false, { ledger with batch := none })

/-! ## The invariant -/

structure InRange (ledger : Ledger) : Prop where
  nonempty : ledger.entries ≠ []
  cursor_lt : ledger.cursor < ledger.entries.length
  bounded : 0 < ledger.limit → ledger.entries.length ≤ ledger.limit
  /-- A batch that has an entry has it at the end, under the cursor. -/
  batch_atTail : ∀ batch, ledger.batch = some batch → batch.recorded = true →
    ledger.cursor + 1 = ledger.entries.length

end Ledger

/-! ## The ledger of a history -/

namespace History

@[simps] def ledger (history : History) : Ledger where
  arena := history.arena
  entries := history.entries
  cursor := history.cursor
  limit := history.limit
  batch := history.batch
  compactAt := history.compactAt

variable (history : History)

/-! ### Views -/

theorem current?_ledger : history.ledger.current? = some history.current := entries_cursor history

private theorem entries_succ_cursor :
    history.entries[history.cursor + 1]? = history.future.head? := by
  rw [entries, cursor, List.getElem?_append_right (by simp)]
  simp [List.head?_eq_getElem?]

theorem length_entries_eq :
    history.entries.length = history.cursor + 1 + history.future.length :=
  length_entries history

theorem canUndo_ledger : history.ledger.canUndo = history.canUndo := by
  rw [Bool.eq_iff_iff]
  simp [Ledger.canUndo, ledger, cursor, canUndo, List.length_pos_iff]

theorem canRedo_ledger : history.ledger.canRedo = history.canRedo := by
  simp only [Ledger.canRedo, ledger_cursor, ledger_entries, length_entries_eq, canRedo]
  cases history.future <;> simp

theorem atTail_ledger : history.ledger.atTail = history.future.isEmpty := by
  simp only [Ledger.atTail, ledger_cursor, ledger_entries, length_entries_eq]
  cases history.future <;> simp

theorem cursor_lt_length_entries : history.cursor < history.entries.length := by
  rw [length_entries_eq]
  omega

theorem undoLabel?_ledger : history.ledger.undoLabel? = some history.undoLabel? := by
  rw [Ledger.undoLabel?, canUndo_ledger, undoLabel?, ledger_entries, ledger_cursor, entries_cursor]
  split <;> rfl

theorem redoLabel?_ledger : history.ledger.redoLabel? = some history.redoLabel? := by
  rw [Ledger.redoLabel?, canRedo_ledger, redoLabel?, ledger_entries, ledger_cursor,
    entries_succ_cursor, canRedo]
  cases history.future <;> rfl

/-! ### Recording -/

variable {history}

private theorem overwrite?_ledger (entry : Entry) :
    history.ledger.overwrite? entry =
      some ({ history with current := entry } : History).ledger := by
  have hcursor : history.ledger.cursor < history.ledger.entries.length :=
    cursor_lt_length_entries history
  have hset : history.ledger.entries.set history.ledger.cursor entry =
      ({ history with current := entry } : History).entries := by
    simp [entries, cursor]
  rw [Ledger.overwrite?, if_pos hcursor, hset]
  rfl

private theorem take_entries (history : History) :
    history.entries.take (history.cursor + 1) = (history.current :: history.past).reverse := by
  have hentries : history.entries =
      (history.current :: history.past).reverse ++ history.future := by
    simp [entries]
  rw [hentries]
  exact List.take_left' (by simp [cursor])

private theorem append?_ledger (history : History) (root : NodeId) (tokens : DesignTokens)
    (label : String) :
    history.ledger.append? ⟨root, tokens, history.labelFor label⟩ =
      some (history.appended root tokens label).ledger := by
  have hentries : history.ledger.entries.take (history.ledger.cursor + 1) ++
      [⟨root, tokens, history.labelFor label⟩] = (history.appended root tokens label).entries := by
    rw [ledger_entries, ledger_cursor, take_entries]
    rfl
  have hcursor : (history.appended root tokens label).entries.length.psub 1 =
      some (history.appended root tokens label).cursor := by
    rw [length_entries, Nat.psub_eq_some]
    rfl
  rw [Ledger.append?, hentries, hcursor]
  rfl

theorem overLimit_ledger (history : History) : history.ledger.overLimit = history.overLimit := by
  rw [Ledger.overLimit, ledger_limit, ledger_entries, length_entries]
  rfl

private theorem evict?_ledger (hfuture : history.future = []) :
    history.ledger.evict? =
      some (if history.overLimit then history.evict else history).ledger := by
  rw [Ledger.evict?, overLimit_ledger]
  split
  · next hover =>
      obtain ⟨hpos, hlimit⟩ : 0 < history.limit ∧ history.limit < history.past.length + 1 := by
        simpa [overLimit, length, hfuture] using hover
      have hcount : history.ledger.entries.length.psub history.ledger.limit =
          some (history.past.length + 1 - history.limit) := by
        rw [ledger_entries, ledger_limit, length_entries, length, hfuture, Nat.psub_eq_some,
          List.length_nil]
        omega
      have hcursor : history.ledger.cursor.psub (history.past.length + 1 - history.limit) =
          some history.evict.cursor := by
        rw [ledger_cursor, Nat.psub_eq_some, cursor, cursor, evict, List.length_take]
        omega
      have hentries : history.ledger.entries.drop (history.past.length + 1 - history.limit) =
          history.evict.entries := by
        have hkept : history.past.length - (history.past.length + 1 - history.limit) =
            history.limit - 1 := by omega
        have hfront : history.past.length + 1 - history.limit ≤ history.past.reverse.length := by
          rw [List.length_reverse]
          omega
        rw [ledger_entries, entries, List.drop_append_of_le_length hfront, List.drop_reverse, hkept]
        rfl
      simp only [hcount, hcursor, hentries, Option.bind_eq_bind, Option.bind_some]
      rfl
  · rfl

private theorem compactWhenDue_ledger (history : History) :
    history.ledger.compactWhenDue = history.compactWhenDue.ledger := by
  rw [Ledger.compactWhenDue, compactWhenDue, ledger_arena, ledger_compactAt]
  split
  · rfl
  · have hcursor : history.compact.2.cursor = history.cursor := by
      simp [compact, cursor]
    have hentries := entries_compact history
    exact Ledger.ext rfl hentries.symm hcursor.symm rfl rfl rfl

def placed (history : History) (root : NodeId) (tokens : DesignTokens) (label : String) :
    History :=
  if history.extendsBatch then { history with current := ⟨root, tokens, history.labelFor label⟩ }
  else history.appended root tokens label

theorem extendsBatch_ledger (history : History) :
    history.ledger.extendsBatch = history.extendsBatch := by
  rw [Ledger.extendsBatch, atTail_ledger]
  rfl

private theorem place?_ledger (history : History) (root : NodeId) (tokens : DesignTokens)
    (label : String) :
    history.ledger.place? ⟨root, tokens, history.labelFor label⟩ =
      some (history.placed root tokens label).ledger := by
  rw [Ledger.place?, extendsBatch_ledger, placed]
  split
  · exact overwrite?_ledger _
  · exact append?_ledger history root tokens label

private theorem future_placed (history : History) (root : NodeId) (tokens : DesignTokens)
    (label : String) :
    (history.placed root tokens label).future = [] := by
  rw [placed]
  split
  · next hextends => exact future_of_extendsBatch hextends
  · rfl

theorem record_placed (history : History) (root : NodeId) (tokens : DesignTokens)
    (label : String) :
    history.record root tokens label =
      let placed := history.placed root tokens label
      let kept := if placed.overLimit then placed.evict else placed
      if history.extendsBatch || history.canRedo || placed.overLimit then kept.compactWhenDue
      else kept := rfl

theorem record?_ledger (history : History) (root : NodeId) (tokens : DesignTokens)
    (label : String) :
    history.ledger.record? root tokens label =
      some (history.record root tokens label).ledger := by
  have hplace := place?_ledger history root tokens label
  have hevict := evict?_ledger (future_placed history root tokens label)
  have htail : (!history.ledger.atTail) = history.canRedo := by
    rw [atTail_ledger]
    rfl
  rw [labelFor] at hplace
  simp only [Ledger.record?, ledger_batch, hplace, hevict, Option.bind_eq_bind, Option.bind_some,
    extendsBatch_ledger, htail, overLimit_ledger, compactWhenDue_ledger, record_placed]
  exact congrArg some (apply_ite ledger _ _ _).symm

/-! ### Moving the cursor -/

theorem undo?_ledger (history : History) :
    history.ledger.undo? = some (history.undo.1, history.undo.2.ledger) := by
  rw [Ledger.undo?, canUndo_ledger, canUndo]
  cases hpast : history.past with
  | nil => simp [undo, hpast, ledger, entries, cursor]
  | cons entry rest => simp [undo, hpast, ledger, entries, cursor, Nat.psub]

theorem redo_ledger (history : History) :
    history.ledger.redo = (history.redo.1, history.redo.2.ledger) := by
  rw [Ledger.redo, canRedo_ledger, canRedo]
  cases hfuture : history.future with
  | nil => simp [redo, hfuture, ledger, entries, cursor]
  | cons entry rest => simp [redo, hfuture, ledger, entries, cursor]

end History

end DocTemplate

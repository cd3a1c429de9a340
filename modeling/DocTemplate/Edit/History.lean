import DocTemplate.Edit.Compaction
import DocTemplate.Template.Document

/-!
# History

Snapshots of a document around a cursor.  A new snapshot is recorded behind the current one and
everything that could be redone is gone; within a batch, later snapshots take the place of the first
one, so that the batch is a single step.  Beyond the limit the oldest snapshots are given up.  Nodes
that no snapshot needs are reclaimed from time to time.
-/

namespace DocTemplate

structure Entry where
  root : NodeId
  tokens : DesignTokens
  label : String

structure Batch where
  label : String
  recorded : Bool
  deriving DecidableEq, Repr

structure History where
  arena : Arena
  /-- Entries in front of the current one, nearest first. -/
  past : List Entry
  current : Entry
  /-- Entries that can be redone, nearest first. -/
  future : List Entry
  /-- The greatest number of entries; zero stands for no limit. -/
  limit : Nat
  batch : Option Batch
  compactAt : Nat

namespace History

def defaultLimit : Nat := 100

def minCompactAt : Nat := 1024

def nextCompactAt (arena : Arena) : Nat := max (2 * arena.size) minCompactAt

def initialLabel : String := "Initial document"

def start (arena : Arena) (root : NodeId) (tokens : DesignTokens) (limit : Nat) : History where
  arena := arena
  past := []
  current := ⟨root, tokens, initialLabel⟩
  future := []
  limit := limit
  batch := none
  compactAt := nextCompactAt arena

/-! ## Views -/

def entries (history : History) : List Entry :=
  history.past.reverse ++ history.current :: history.future

def length (history : History) : Nat := history.past.length + 1 + history.future.length

def cursor (history : History) : Nat := history.past.length

@[simp] theorem length_entries (history : History) : history.entries.length = history.length := by
  simp [entries, length]
  omega

@[simp] theorem entries_cursor (history : History) :
    history.entries[history.cursor]? = some history.current := by
  simp [entries, cursor]

def canUndo (history : History) : Bool := !history.past.isEmpty

def canRedo (history : History) : Bool := !history.future.isEmpty

def undoLabel? (history : History) : Option String :=
  if history.canUndo then some history.current.label else none

def redoLabel? (history : History) : Option String := history.future.head?.map Entry.label

def inBatch (history : History) : Bool := history.batch.isSome

/-! ## Compaction -/

def Entry.renumber (renumber : NodeId → NodeId) (entry : Entry) : Entry :=
  { entry with root := renumber entry.root }

/-- Reclaims all nodes that no entry needs, and counts them. -/
def compact (history : History) : Nat × History :=
  let compaction := history.arena.compact (history.entries.map Entry.root)
  let renumber := Entry.renumber compaction.renumber
  (compaction.reclaimed,
    { history with
      arena := compaction.arena
      past := history.past.map renumber
      current := renumber history.current
      future := history.future.map renumber })

def compactWhenDue (history : History) : History :=
  if history.arena.size < history.compactAt then history
  else
    let compacted := history.compact.2
    { compacted with compactAt := nextCompactAt compacted.arena }

/-! ## Recording -/

def extendsBatch (history : History) : Bool :=
  history.future.isEmpty && (history.batch.map Batch.recorded).getD false

def evict (history : History) : History :=
  { history with past := history.past.take (history.limit - 1) }

def overLimit (history : History) : Bool :=
  0 < history.limit && history.limit < history.length

def record (history : History) (root : NodeId) (tokens : DesignTokens) (label : String) :
    History :=
  let entry : Entry := ⟨root, tokens, (history.batch.map Batch.label).getD label⟩
  let replaces := history.extendsBatch
  let recorded : History :=
    if replaces then { history with current := entry }
    else
      { history with
        past := history.current :: history.past
        current := entry
        future := []
        batch := history.batch.map fun batch => { batch with recorded := true } }
  let dropped := replaces || history.canRedo || recorded.overLimit
  let kept := if recorded.overLimit then recorded.evict else recorded
  if dropped then kept.compactWhenDue else kept

/-! ## Moving the cursor -/

/-- A batch that is open is closed, whether or not there is a step to undo. -/
def undo (history : History) : Bool × History :=
  let closed := { history with batch := none }
  match history.past with
  | [] => (false, closed)
  | entry :: rest =>
      (true, { closed with
        past := rest, current := entry, future := history.current :: history.future })

def redo (history : History) : Bool × History :=
  let closed := { history with batch := none }
  match history.future with
  | [] => (false, closed)
  | entry :: rest =>
      (true, { closed with
        past := history.current :: history.past, current := entry, future := rest })

/-! ## Batches -/

def beginBatch (history : History) (label : String) : History :=
  { history with batch := some ⟨label, false⟩ }

/-- Whether the batch that is closed has an entry. -/
def endBatch (history : History) : Bool × History :=
  ((history.batch.map Batch.recorded).getD false, { history with batch := none })

end History

end DocTemplate

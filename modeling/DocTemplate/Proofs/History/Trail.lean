import DocTemplate.Template.Document

/-!
# Trails

A trail is a history with whole documents in place of nodes: snapshots around a current one.  What
an operation does to a history is told by what it does to its trail.
-/

namespace DocTemplate

structure Snapshot where
  document : Document
  label : String

/-- Past and future snapshots are listed nearest first. -/
structure Trail where
  past : List Snapshot
  current : Snapshot
  future : List Snapshot

/-! ## Limits -/

section Limits

variable {α β : Type} {limit others : Nat} {entries : List α}

def capped (limit others : Nat) (entries : List α) : List α :=
  if limit = 0 then entries else entries.take (limit - others)

theorem capped_eq_self (h : limit = 0 ∨ entries.length + others ≤ limit) :
    capped limit others entries = entries := by
  rw [capped]
  split
  · rfl
  · exact List.take_of_length_le (by omega)

theorem length_capped (limit others : Nat) (entries : List α) :
    (capped limit others entries).length =
      if limit = 0 then entries.length else min (limit - others) entries.length := by
  rw [capped]
  split
  · rfl
  · exact List.length_take

theorem capped_isPrefix (limit others : Nat) (entries : List α) :
    capped limit others entries <+: entries := by
  rw [capped]
  split
  · exact List.prefix_rfl
  · exact List.take_prefix (limit - others) entries

theorem map_capped (limit others : Nat) (read : α → β) (entries : List α) :
    (capped limit others entries).map read = capped limit others (entries.map read) := by
  rw [capped, capped]
  split
  · rfl
  · exact List.map_take

theorem take_capped {count : Nat} (h : limit = 0 ∨ count + others ≤ limit) :
    (capped limit others entries).take count = entries.take count := by
  rw [capped]
  split
  · rfl
  · rw [List.take_take, Nat.min_eq_left (by omega)]

theorem capped_append_capped (limit others : Nat) (entries older : List α) :
    capped limit others (entries ++ capped limit others older) =
      capped limit others (entries ++ older) := by
  rw [capped, capped, capped]
  split
  · rfl
  · have hroom : limit - others - entries.length ≤ limit - others := Nat.sub_le _ _
    rw [List.take_append, List.take_append, List.take_take, Nat.min_eq_left hroom]

private theorem cons_capped (limit : Nat) (entry : α) (entries : List α) :
    entry :: capped limit 1 entries = capped limit 0 (entry :: entries) := by
  rw [capped, capped]
  cases limit <;> simp

def latest (limit : Nat) (entries : List α) : List α :=
  if limit = 0 then entries else entries.drop (entries.length - limit)

private theorem reverse_capped (limit : Nat) (entries : List α) :
    (capped limit 0 entries).reverse = latest limit entries.reverse := by
  rw [capped, latest]
  split
  · rfl
  · rw [List.reverse_take, List.length_reverse, Nat.sub_zero]

theorem length_latest_pos (h : entries ≠ []) : 0 < (latest limit entries).length := by
  have hpos := List.length_pos_iff.mpr h
  rw [latest]
  split
  · exact hpos
  · rw [List.length_drop]
    omega

end Limits

namespace Trail

def snapshots (trail : Trail) : List Snapshot :=
  trail.past.reverse ++ trail.current :: trail.future

/-- The current snapshot and those in front of it, nearest first. -/
def line (trail : Trail) : List Snapshot := trail.current :: trail.past

@[simp] theorem length_snapshots (trail : Trail) :
    trail.snapshots.length = trail.past.length + 1 + trail.future.length := by
  simp [snapshots]
  omega

theorem reverse_line_isPrefix (trail : Trail) : trail.line.reverse <+: trail.snapshots :=
  ⟨trail.future, by simp [line, snapshots]⟩

private theorem take_snapshots (trail : Trail) :
    trail.snapshots.take (trail.past.length + 1) = trail.line.reverse := by
  have hlength : trail.past.length + 1 = trail.line.reverse.length := by
    simp [line]
  rw [hlength, ← List.prefix_iff_eq_take.mp (reverse_line_isPrefix trail)]

/-! ## Recording -/

def extend (limit : Nat) (snapshot : Snapshot) (trail : Trail) : Trail where
  past := capped limit 1 trail.line
  current := snapshot
  future := []

theorem line_extend (limit : Nat) (snapshot : Snapshot) (trail : Trail) :
    (trail.extend limit snapshot).line = capped limit 0 (snapshot :: trail.line) :=
  cons_capped limit snapshot trail.line

theorem snapshots_extend (limit : Nat) (snapshot : Snapshot) (trail : Trail) :
    (trail.extend limit snapshot).snapshots =
      latest limit (trail.snapshots.take (trail.past.length + 1) ++ [snapshot]) := by
  have hline : (trail.extend limit snapshot).snapshots =
      (trail.extend limit snapshot).line.reverse := by
    simp [snapshots, line, extend]
  rw [hline, line_extend, reverse_capped, List.reverse_cons, take_snapshots]

def replace (snapshot : Snapshot) (trail : Trail) : Trail := { trail with current := snapshot }

theorem snapshots_replace (snapshot : Snapshot) (trail : Trail) :
    (trail.replace snapshot).snapshots = trail.snapshots.set trail.past.length snapshot := by
  simp [snapshots, replace]

/-! ## Undo and redo -/

def undo : Trail → Bool × Trail
  | ⟨[], current, future⟩ => (false, ⟨[], current, future⟩)
  | ⟨snapshot :: past, current, future⟩ => (true, ⟨past, snapshot, current :: future⟩)

def redo : Trail → Bool × Trail
  | ⟨past, current, []⟩ => (false, ⟨past, current, []⟩)
  | ⟨past, current, snapshot :: future⟩ => (true, ⟨current :: past, snapshot, future⟩)

/-- Only a limit of one gives up the snapshot that a new one follows. -/
theorem undo_extend {limit : Nat} (hlimit : limit ≠ 1) (snapshot : Snapshot) (trail : Trail) :
    ∃ past, (trail.extend limit snapshot).undo = (true, ⟨past, trail.current, [snapshot]⟩) := by
  rw [extend, capped]
  split
  · exact ⟨trail.past, rfl⟩
  · obtain ⟨count, hcount⟩ : ∃ count, limit - 1 = count + 1 := ⟨limit - 2, by omega⟩
    exact ⟨trail.past.take count, by rw [hcount]; rfl⟩

end Trail

end DocTemplate

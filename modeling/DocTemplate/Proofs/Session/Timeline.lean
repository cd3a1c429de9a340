import DocTemplate.Proofs.Session.Run

/-!
# A session without an arena

A timeline is an editor that holds every snapshot as a document of its own, in one list with a
cursor: nothing is shared between snapshots and nothing is ever compacted.  A session cannot be told
from the timeline with the same start.
-/

namespace DocTemplate

@[ext] structure Timeline where
  snapshots : List Snapshot
  cursor : Nat
  inRange : cursor < snapshots.length
  limit : Nat
  batch : Option Batch
  version : Nat

structure Observation where
  template : Element
  tokens : DesignTokens
  version : Nat
  elementAt? : String → Option Element
  snapshots : List Snapshot
  length : Nat
  cursor : Nat
  canUndo : Bool
  canRedo : Bool
  undoLabel? : Option String
  redoLabel? : Option String
  inBatch : Bool

namespace Timeline

def start (document : Document) (limit : Nat) : Timeline where
  snapshots := [⟨document, History.initialLabel⟩]
  cursor := 0
  inRange := Nat.zero_lt_one
  limit := limit
  batch := none
  version := 0

/-! ## Views -/

def current (timeline : Timeline) : Snapshot :=
  timeline.snapshots.get ⟨timeline.cursor, timeline.inRange⟩

def document (timeline : Timeline) : Document := timeline.current.document

def elementAt? (timeline : Timeline) (path : String) : Option Element :=
  match ElementPath.parse path with
  | .error _ => none
  | .ok path => timeline.document.template.find? path

def canUndo (timeline : Timeline) : Bool := 0 < timeline.cursor

def canRedo (timeline : Timeline) : Bool := timeline.cursor + 1 < timeline.snapshots.length

def observe (timeline : Timeline) : Observation where
  template := timeline.document.template
  tokens := timeline.document.tokens
  version := timeline.version
  elementAt? := timeline.elementAt?
  snapshots := timeline.snapshots
  length := timeline.snapshots.length
  cursor := timeline.cursor
  canUndo := timeline.canUndo
  canRedo := timeline.canRedo
  undoLabel? := if timeline.canUndo then some timeline.current.label else none
  redoLabel? := timeline.snapshots[timeline.cursor + 1]?.map Snapshot.label
  inBatch := timeline.batch.isSome

/-! ## Operations -/

def extendsBatch (timeline : Timeline) : Bool :=
  !timeline.canRedo && (timeline.batch.map Batch.recorded).getD false

def record (timeline : Timeline) (document : Document) (label : String) : Timeline :=
  let snapshot : Snapshot := ⟨document, (timeline.batch.map Batch.label).getD label⟩
  if timeline.extendsBatch then
    { timeline with
      snapshots := timeline.snapshots.set timeline.cursor snapshot
      inRange := by simpa using timeline.inRange
      version := timeline.version + 1 }
  else
    let kept := timeline.snapshots.take (timeline.cursor + 1) ++ [snapshot]
    { snapshots := latest timeline.limit kept
      cursor := (latest timeline.limit kept).length - 1
      inRange := Nat.sub_one_lt_of_lt (length_latest_pos (by simp [kept]))
      limit := timeline.limit
      batch := timeline.batch.map fun batch => { batch with recorded := true }
      version := timeline.version + 1 }

def apply (timeline : Timeline) (edit : Edit) : Except EditError EditResult × Timeline :=
  match edit.onDocument timeline.document with
  | .error error => (.error error, timeline)
  | .ok document =>
      (.ok ⟨timeline.version + 1, edit.placeIn timeline.document.template⟩,
        timeline.record document edit.label)

def tryApply (timeline : Timeline) (edit : Edit) : Bool × Timeline :=
  match timeline.apply edit with
  | (.ok _, after) => (true, after)
  | (.error _, after) => (false, after)

def applyText (timeline : Timeline) (text : TextEdit) : Bool × Timeline :=
  match text.edit? with
  | none => (false, timeline)
  | some edit => timeline.tryApply edit

def undo (timeline : Timeline) : Bool × Timeline :=
  (timeline.canUndo,
    { timeline with
      cursor := timeline.cursor - 1
      inRange := Nat.lt_of_le_of_lt (Nat.sub_le timeline.cursor 1) timeline.inRange
      batch := none })

def redo (timeline : Timeline) : Bool × Timeline :=
  if h : timeline.cursor + 1 < timeline.snapshots.length then
    (true, { timeline with cursor := timeline.cursor + 1, inRange := h, batch := none })
  else (false, { timeline with batch := none })

def step (timeline : Timeline) : SessionOp → Reply × Timeline
  | .edit edit => (.edited (timeline.apply edit).1, (timeline.apply edit).2)
  | .editText text => (.flag (timeline.applyText text).1, (timeline.applyText text).2)
  | .updateTokens tokens =>
      (.flag (timeline.tryApply (.updateTokens tokens)).1,
        (timeline.tryApply (.updateTokens tokens)).2)
  | .undo => (.flag timeline.undo.1, timeline.undo.2)
  | .redo => (.flag timeline.redo.1, timeline.redo.2)
  | .beginBatch label => (.done, { timeline with batch := some ⟨label, false⟩ })
  | .endBatch =>
      (.flag ((timeline.batch.map Batch.recorded).getD false), { timeline with batch := none })

abbrev trace : Timeline → List SessionOp → List (Reply × Timeline) := Run.trace step

end Timeline

namespace Session

def observe (session : Session) : Observation where
  template := session.template
  tokens := session.tokens
  version := session.version
  elementAt? := session.elementAt?
  snapshots := session.history.snapshots
  length := session.history.length
  cursor := session.history.cursor
  canUndo := session.history.canUndo
  canRedo := session.history.canRedo
  undoLabel? := session.history.undoLabel?
  redoLabel? := session.history.redoLabel?
  inBatch := session.history.inBatch

/-! ## The timeline of a session -/

theorem length_snapshots (history : History) : history.snapshots.length = history.length := by
  rw [History.snapshots, List.length_map, History.length_entries]

private theorem cursor_lt_snapshots (history : History) :
    history.cursor < history.snapshots.length := by
  rw [length_snapshots, History.cursor, History.length]
  omega

def timeline (session : Session) : Timeline where
  snapshots := session.history.snapshots
  cursor := session.history.cursor
  inRange := cursor_lt_snapshots session.history
  limit := session.history.limit
  batch := session.history.batch
  version := session.version

variable {session : Session}

theorem current_timeline (session : Session) :
    session.timeline.current = session.history.snapshotOf session.history.current := by
  have hcurrent : session.timeline.snapshots[session.timeline.cursor]? =
      some (session.history.snapshotOf session.history.current) := by
    change (session.history.entries.map _)[session.history.cursor]? = _
    rw [List.getElem?_map, History.entries_cursor]
    rfl
  obtain ⟨_, hget⟩ := List.getElem?_eq_some_iff.mp hcurrent
  exact hget

theorem document_timeline (session : Session) : session.timeline.document = session.document := by
  rw [Timeline.document, current_timeline]
  rfl

theorem canUndo_timeline (session : Session) :
    session.timeline.canUndo = session.history.canUndo := by
  rw [Bool.eq_iff_iff]
  simp [Timeline.canUndo, timeline, History.cursor, History.canUndo, List.length_pos_iff]

theorem canRedo_timeline (session : Session) :
    session.timeline.canRedo = session.history.canRedo := by
  simp only [Timeline.canRedo, timeline, length_snapshots, History.cursor, History.length,
    History.canRedo]
  cases session.history.future <;> simp

private theorem redoLabel_timeline (session : Session) :
    session.timeline.snapshots[session.timeline.cursor + 1]?.map Snapshot.label =
      session.history.redoLabel? := by
  change ((session.history.entries.map _)[session.history.cursor + 1]?).map _ = _
  rw [History.redoLabel?, History.entries, History.cursor]
  cases session.history.future <;> simp [History.snapshotOf]

private theorem elementAt_timeline (h : session.history.WellFormed) :
    session.timeline.elementAt? = session.elementAt? := by
  funext path
  rw [Timeline.elementAt?, elementAt?, document_timeline]
  cases ElementPath.parse path with
  | error fault => rfl
  | ok path => exact Arena.find?_build h.arena _ path

theorem observe_timeline (h : session.history.WellFormed) :
    session.timeline.observe = session.observe := by
  simp only [Timeline.observe, observe, document_timeline, elementAt_timeline h, canUndo_timeline,
    canRedo_timeline, redoLabel_timeline, current_timeline]
  have hlength : session.timeline.snapshots.length = session.history.length :=
    length_snapshots session.history
  rw [hlength]
  rfl

/-! ## Operations on timelines -/

private theorem extendsBatch_timeline (session : Session) :
    session.timeline.extendsBatch = session.history.extendsBatch := by
  rw [Timeline.extendsBatch, canRedo_timeline, History.canRedo, Bool.not_not]
  rfl

theorem timeline_eq {timeline : Timeline}
    (hsnapshots : session.history.snapshots = timeline.snapshots)
    (hcursor : session.history.cursor = timeline.cursor)
    (hlimit : session.history.limit = timeline.limit)
    (hbatch : session.history.batch = timeline.batch)
    (hversion : session.version = timeline.version) : session.timeline = timeline :=
  Timeline.ext hsnapshots hcursor hlimit hbatch hversion

private theorem timeline_of_records {document : Document} {label : String} {after : Session}
    (h : session.Records document label after) :
    after.timeline = session.timeline.record document label := by
  have htrail := h.trail
  have hsnapshots := History.snapshots_eq after.history
  have hcursor := History.length_past_trail after.history
  rw [Timeline.record, extendsBatch_timeline]
  cases hextends : session.history.extendsBatch with
  | true =>
      rw [hextends, if_pos rfl] at htrail
      rw [htrail] at hsnapshots hcursor
      rw [Trail.snapshots_replace, ← History.snapshots_eq, History.length_past_trail] at hsnapshots
      rw [if_pos rfl]
      exact timeline_eq hsnapshots (hcursor.symm.trans (History.length_past_trail _)) h.limit
        (h.batch.trans (History.batch_of_extendsBatch hextends)) h.version
  | false =>
      rw [hextends, if_neg Bool.false_ne_true] at htrail
      rw [htrail] at hsnapshots hcursor
      have hlength := Trail.length_snapshots (session.history.trail.extend session.history.limit
        ⟨document, session.history.labelFor label⟩)
      rw [Trail.snapshots_extend, ← History.snapshots_eq,
        History.length_past_trail] at hsnapshots hlength
      rw [if_neg Bool.false_ne_true]
      exact timeline_eq hsnapshots (hcursor.symm.trans (Nat.eq_sub_of_add_eq hlength.symm)) h.limit
        h.batch h.version

theorem apply_timeline (h : session.history.WellFormed) (edit : Edit) :
    session.timeline.apply edit = ((session.apply edit).1, (session.apply edit).2.timeline) := by
  rw [Timeline.apply, document_timeline]
  cases hedit : edit.onDocument session.document with
  | error error => rw [apply_of_error h hedit]
  | ok document =>
      obtain ⟨after, happly, hrecords⟩ := apply_of_ok h hedit
      rw [happly, timeline_of_records hrecords]
      rfl

theorem tryApply_timeline (h : session.history.WellFormed) (edit : Edit) :
    session.timeline.tryApply edit =
      ((session.tryApply edit).1, (session.tryApply edit).2.timeline) := by
  rw [Timeline.tryApply, apply_timeline h, tryApply_eq]
  rcases session.apply edit with ⟨result, after⟩
  cases result <;> rfl

private theorem applyText_timeline (h : session.history.WellFormed) (text : TextEdit) :
    session.timeline.applyText text =
      ((session.applyText text).1, (session.applyText text).2.timeline) := by
  rw [Timeline.applyText, applyText_eq]
  cases text.edit? with
  | none => rfl
  | some edit => exact tryApply_timeline h edit

private theorem undo_timeline (session : Session) :
    session.timeline.undo = (session.undo.1, session.undo.2.timeline) := by
  have hmoved := History.moved_undo session.history
  rw [Timeline.undo, canUndo_timeline, ← History.fst_undo]
  apply Prod.ext
  · rfl
  · exact (timeline_eq hmoved.snapshots (History.cursor_undo session.history) hmoved.limit
      hmoved.batch rfl).symm

private theorem redo_timeline (session : Session) :
    session.timeline.redo = (session.redo.1, session.redo.2.timeline) := by
  have hmoved := History.moved_redo session.history
  have hcursor := History.cursor_redo session.history
  have hreply := (canRedo_timeline session).trans (History.fst_redo session.history).symm
  rw [← History.fst_redo, ← hreply] at hcursor
  rw [Timeline.redo]
  split
  · next hroom =>
      have hcan : session.timeline.canRedo = true := decide_eq_true hroom
      rw [hcan] at hreply hcursor
      apply Prod.ext
      · exact hreply
      · exact (timeline_eq hmoved.snapshots hcursor hmoved.limit hmoved.batch rfl).symm
  · next hroom =>
      have hcan : session.timeline.canRedo = false := decide_eq_false hroom
      rw [hcan] at hreply hcursor
      apply Prod.ext
      · exact hreply
      · exact (timeline_eq hmoved.snapshots hcursor hmoved.limit hmoved.batch rfl).symm

theorem step_timeline (h : session.history.WellFormed) (op : SessionOp) :
    session.timeline.step op = ((session.step op).1, (session.step op).2.timeline) := by
  cases op with
  | edit edit => rw [Timeline.step, step, apply_timeline h]
  | editText text => rw [Timeline.step, step, applyText_timeline h]
  | updateTokens tokens => rw [Timeline.step, step, tryApply_timeline h, updateTokens]
  | undo => rw [Timeline.step, step, undo_timeline]
  | redo => rw [Timeline.step, step, redo_timeline]
  | beginBatch label => rfl
  | endBatch => rfl

theorem timeline_start (document : Document) (limit : Nat) :
    (start document limit).timeline = Timeline.start document limit := by
  have hsnapshots := History.snapshots_eq (start document limit).history
  rw [trail_start] at hsnapshots
  exact timeline_eq hsnapshots rfl rfl rfl rfl

/-! ## Runs -/

theorem observe_trace (h : session.history.WellFormed) (ops : List SessionOp) :
    (session.trace ops).map (fun visit => (visit.1, visit.2.observe)) =
      (session.timeline.trace ops).map fun visit => (visit.1, visit.2.observe) := by
  induction ops generalizing session with
  | nil => rfl
  | cons op ops ih =>
      have hafter := wellFormed_step h op
      simp only [trace, Timeline.trace, Run.trace, List.map_cons, step_timeline h,
        observe_timeline hafter]
      exact congrArg _ (ih hafter)

/-- All snapshots are as they were, or a stretch of them is left with a new one at its end. -/
def Keeps (before after : Session) : Prop :=
  after.history.snapshots = before.history.snapshots ∨
    ∃ kept snapshot, kept <:+: before.history.snapshots ∧
      after.history.snapshots = kept ++ [snapshot]

private theorem keeps_of_records {document : Document} {label : String} {after : Session}
    (h : session.Records document label after) : session.Keeps after := by
  have htrail := h.trail
  right
  rw [History.snapshots_eq, History.snapshots_eq, htrail]
  cases hextends : session.history.extendsBatch with
  | true =>
      have hfuture := History.future_trail_of_extendsBatch hextends
      refine ⟨session.history.trail.past.reverse, ⟨document, session.history.labelFor label⟩,
        (List.prefix_append _ _).isInfix, ?_⟩
      rw [if_pos rfl, Trail.snapshots, Trail.replace, hfuture]
  | false =>
      have hkept := List.reverse_suffix.mpr
        (capped_isPrefix session.history.limit 1 session.history.trail.line)
      have hfront := Trail.reverse_line_isPrefix session.history.trail
      exact ⟨_, _, hkept.isInfix.trans hfront.isInfix, rfl⟩

theorem keeps_step (h : session.history.WellFormed) (op : SessionOp) :
    session.Keeps (session.step op).2 := by
  have hedit {op : SessionOp} (hop : op.isEdit = true) : session.Keeps (session.step op).2 := by
    have hedited := edited_step h hop
    rw [Edited] at hedited
    split at hedited
    · obtain ⟨document, label, hrecords⟩ := hedited
      exact keeps_of_records hrecords
    · rw [hedited]
      exact .inl rfl
  cases op with
  | undo => exact .inl (History.moved_undo session.history).snapshots
  | redo => exact .inl (History.moved_redo session.history).snapshots
  | beginBatch label => exact .inl rfl
  | endBatch => exact .inl rfl
  | edit edit => exact hedit rfl
  | editText text => exact hedit rfl
  | updateTokens tokens => exact hedit rfl

/-- A session and the timeline with the same start give the same replies and show the same after
every operation, and no operation changes a snapshot that stays. -/
theorem refines_timeline (document : Document) (limit : Nat) (ops : List SessionOp) :
    (start document limit).observe = (Timeline.start document limit).observe ∧
      ((start document limit).trace ops).map (fun visit => (visit.1, visit.2.observe)) =
        ((Timeline.start document limit).trace ops).map
          (fun visit => (visit.1, visit.2.observe)) ∧
      ∀ op, ((start document limit).after ops).Keeps
        (((start document limit).after ops).step op).2 := by
  have hstart := wellFormed_start document limit
  have htimeline := timeline_start document limit
  refine ⟨?_, ?_, ?_⟩
  · rw [← observe_timeline hstart, htimeline]
  · rw [observe_trace hstart, htimeline]
  · intro op
    exact keeps_step (wellFormed_after hstart ops) op

end Session

end DocTemplate

import DocTemplate.Proofs.Session.Atomicity

/-!
# Batches

Between the beginning and the end of a batch, the first edit that is made adds a snapshot behind the
one at which the batch began, and every later edit takes its place.
-/

namespace DocTemplate.Session

variable {origin session : Session} {label : String}

/-- A batch that began at `origin` has an entry, and that entry is the newest. -/
structure InBatch (origin : Session) (label : String) (session : Session) : Prop where
  wellFormed : session.history.WellFormed
  batch : session.history.batch = some ⟨label, true⟩
  trail : session.history.trail =
    origin.history.trail.extend origin.history.limit ⟨session.document, label⟩

theorem future_of_inBatch (h : origin.InBatch label session) : session.history.future = [] := by
  have hnone := congrArg Trail.future h.trail
  simpa [History.trail, Trail.extend] using hnone

private theorem inBatch_of_begin {document : Document} {name : String}
    (h : (origin.beginBatch label).Records document name session) :
    origin.InBatch label session := by
  have htrail := h.trail
  have hextends : (origin.beginBatch label).history.extendsBatch = false := by
    simp [beginBatch, History.beginBatch, History.extendsBatch]
  rw [hextends, if_neg Bool.false_ne_true] at htrail
  have hdocument := document_of_trail htrail
  exact ⟨h.wellFormed, h.batch, by rw [htrail, hdocument]; rfl⟩

private theorem InBatch.records {document : Document} {name : String} {after : Session}
    (hbatch : origin.InBatch label session) (h : session.Records document name after) :
    origin.InBatch label after := by
  have htrail := h.trail
  have hextends : session.history.extendsBatch = true := by
    simp [History.extendsBatch, future_of_inBatch hbatch, hbatch.batch]
  have hname : session.history.labelFor name = label := by
    rw [History.labelFor, hbatch.batch]
    rfl
  rw [hextends, if_pos rfl, hname, hbatch.trail] at htrail
  have hdocument := document_of_trail htrail
  refine ⟨h.wellFormed, ?_, ?_⟩
  · rw [h.batch, History.batch_of_extendsBatch hextends, hbatch.batch]
  · rw [htrail, hdocument]
    rfl

private theorem InBatch.after {ops : List SessionOp} (h : origin.InBatch label session)
    (hedits : ∀ op ∈ ops, op.isEdit = true) : origin.InBatch label (session.after ops) := by
  induction ops generalizing session with
  | nil => exact h
  | cons op ops ih =>
      obtain ⟨hop, hrest⟩ := List.forall_mem_cons.mp hedits
      have hstep := edited_step h.wellFormed hop
      rw [Edited] at hstep
      split at hstep
      · obtain ⟨document, name, hrecords⟩ := hstep
        exact ih (h.records hrecords) hrest
      · rw [Session.after, Run.last, hstep]
        exact ih h hrest

theorem inBatch_of_succeeded {ops : List SessionOp} (hwell : origin.history.WellFormed)
    (hedits : ∀ op ∈ ops, op.isEdit = true)
    (h : ∃ visit ∈ (origin.beginBatch label).trace ops, visit.1.succeeded = true) :
    origin.InBatch label ((origin.beginBatch label).after ops) := by
  have hopen : (origin.beginBatch label).history.WellFormed := hwell.of_entries rfl rfl rfl
  -- refused edits at the front leave the batch as it was opened
  induction ops with
  | nil => simp [Run.trace] at h
  | cons op ops ih =>
      obtain ⟨hop, hrest⟩ := List.forall_mem_cons.mp hedits
      have hstep := edited_step hopen hop
      rw [Edited] at hstep
      split at hstep
      · obtain ⟨document, name, hrecords⟩ := hstep
        exact (inBatch_of_begin hrecords).after hrest
      · next hrefused =>
          rw [Session.after, Run.last, hstep]
          apply ih hrest
          obtain ⟨visit, hvisit, hsucceeded⟩ := h
          rw [trace, Run.trace, hstep] at hvisit
          rcases List.mem_cons.mp hvisit with rfl | hvisit
          · exact absurd hsucceeded hrefused
          · exact ⟨visit, hvisit, hsucceeded⟩

/-! ## The end of a batch -/

theorem undo_of_inBatch (h : origin.InBatch label session) (hlimit : origin.history.limit ≠ 1) :
    ∃ past, session.endBatch.2.undo.1 = true ∧
      session.endBatch.2.undo.2.history.trail =
        ⟨past, origin.history.trail.current, [⟨session.document, label⟩]⟩ := by
  obtain ⟨past, hundo⟩ := Trail.undo_extend hlimit ⟨session.document, label⟩ origin.history.trail
  rw [← h.trail] at hundo
  have hmoved := (History.trail_undo session.endBatch.2.history).symm.trans hundo
  exact ⟨past, congrArg Prod.fst hmoved, congrArg Prod.snd hmoved⟩

theorem redo_of_inBatch (h : origin.InBatch label session) (hlimit : origin.history.limit ≠ 1) :
    session.endBatch.2.undo.2.redo.1 = true ∧
      session.endBatch.2.undo.2.redo.2.document = session.document := by
  obtain ⟨past, -, htrail⟩ := undo_of_inBatch h hlimit
  have hredo := History.trail_redo session.endBatch.2.undo.2.history
  rw [htrail, Trail.redo] at hredo
  exact ⟨(congrArg Prod.fst hredo).symm, congrArg (·.2.current.document) hredo.symm⟩

theorem undoLabel_of_inBatch (h : origin.InBatch label session)
    (hlimit : origin.history.limit ≠ 1) :
    session.endBatch.2.history.undoLabel? = some label := by
  obtain ⟨past, hundo, -⟩ := undo_of_inBatch h hlimit
  have hlabel : session.history.current.label = label :=
    congrArg (·.current.label) h.trail
  have hcanUndo : session.endBatch.2.history.canUndo = true := by
    rw [← History.fst_undo]
    exact hundo
  rw [History.undoLabel?, if_pos hcanUndo]
  exact congrArg some hlabel

theorem snapshots_of_inBatch (h : origin.InBatch label session) :
    session.history.snapshots = latest origin.history.limit
      (origin.history.snapshots.take (origin.history.cursor + 1) ++
        [⟨session.document, label⟩]) := by
  rw [History.snapshots_eq, h.trail, Trail.snapshots_extend, History.snapshots_eq,
    History.length_past_trail]

/-- A batch in which an edit is made is one step, the document at its end behind the one at its
beginning; a batch without any leaves the session as it was. -/
theorem batch_is_one_step {ops : List SessionOp} (hreachable : session.Reachable)
    (hlimit : session.history.limit ≠ 1) (label : String)
    (hedits : ∀ op ∈ ops, op.isEdit = true) :
    let edited := (session.beginBatch label).after ops
    let ended := edited.endBatch.2
    ((∃ visit ∈ (session.beginBatch label).trace ops, visit.1.succeeded = true) →
      edited.endBatch.1 = true ∧
        ended.history.snapshots = latest session.history.limit
          (session.history.snapshots.take (session.history.cursor + 1) ++
            [⟨edited.document, label⟩]) ∧
        ended.history.undoLabel? = some label ∧ ended.history.canRedo = false ∧
        ended.undo.1 = true ∧ ended.undo.2.document = session.document ∧
        ended.undo.2.redo.1 = true ∧ ended.undo.2.redo.2.document = edited.document) ∧
      ((∀ visit ∈ (session.beginBatch label).trace ops, visit.1.succeeded = false) →
        edited.endBatch.1 = false ∧
          ended = { session with history := { session.history with batch := none } }) := by
  intro edited ended
  constructor
  · intro hsucceeded
    have hbatch : session.InBatch label edited :=
      inBatch_of_succeeded hreachable.wellFormed hedits hsucceeded
    obtain ⟨past, hundo, htrail⟩ := undo_of_inBatch hbatch hlimit
    obtain ⟨hredo, hdocument⟩ := redo_of_inBatch hbatch hlimit
    have hrecorded : edited.endBatch.1 = true := by
      rw [endBatch, History.endBatch, hbatch.batch]
      rfl
    have hcanRedo : edited.history.canRedo = false := by
      simp [History.canRedo, future_of_inBatch hbatch]
    have hsnapshots := snapshots_of_inBatch hbatch
    exact ⟨hrecorded, hsnapshots, undoLabel_of_inBatch hbatch hlimit, hcanRedo,
      hundo, congrArg (·.current.document) htrail, hredo, hdocument⟩
  · intro hrefused
    have hsame : edited = session.beginBatch label := after_of_refused hedits hrefused
    constructor
    · rw [hsame]
      rfl
    · change edited.endBatch.2 = _
      rw [hsame]
      rfl

theorem batch_is_one_step_after_refused :
    let add : SessionOp := .edit (.addElement [] .blank)
    let refused : SessionOp := .edit (.removeElement [3])
    let session := (start ⟨.blank, .empty⟩ 2).after [add, .undo]
    ((session.beginBatch "both").after [refused, add]).endBatch.2.undo.2.document =
        session.document ∧
      ((session.beginBatch "none").after [refused]).endBatch.1 = false := by
  intro add refused session
  have hreachable : session.Reachable := ⟨⟨.blank, .empty⟩, 2, [add, .undo], rfl⟩
  have hmade := (@batch_is_one_step session [refused, add] hreachable (by decide) "both"
    (by decide)).1 (by decide)
  have hrefused := (@batch_is_one_step session [refused] hreachable (by decide) "none"
    (by decide)).2 (by decide)
  obtain ⟨-, -, -, -, -, hundo, -, -⟩ := hmade
  exact ⟨hundo, hrefused.1⟩

end DocTemplate.Session

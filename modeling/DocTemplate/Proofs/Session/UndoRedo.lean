import DocTemplate.Proofs.Session.Atomicity

/-!
# Undo and redo

The documents that undo and redo visit.  Edits put their documents in front of the older ones, as
far as the limit allows; undo walks back along that line, and redo returns the same way.
-/

namespace DocTemplate.Session

variable {session : Session}

def documents (session : Session) (ops : List SessionOp) : List Document :=
  session.document :: (session.trace ops).map fun visit => visit.2.document

def visits (session : Session) (ops : List SessionOp) : List (Reply × Document) :=
  (session.trace ops).map fun visit => (visit.1, visit.2.document)

/-- The documents from the current one back. -/
def line (session : Session) : List Document := session.history.trail.line.map Snapshot.document

/-- The documents that can be redone, nearest first. -/
def ahead (session : Session) : List Document :=
  session.history.trail.future.map Snapshot.document

private theorem line_eq (session : Session) :
    session.line = session.document :: session.history.trail.past.map Snapshot.document := rfl

private theorem capped_line (h : session.history.WellFormed) :
    capped session.history.limit 0 session.line = session.line := by
  have hlength : session.line.length = session.history.cursor + 1 := by
    simp [line_eq]
  have hbounded := h.bounded
  rw [History.length, ← History.cursor] at hbounded
  exact capped_eq_self (by omega)

private theorem documents_cons (session : Session) (op : SessionOp) (ops : List SessionOp) :
    session.documents (op :: ops) = session.document :: (session.step op).2.documents ops := rfl

theorem length_documents (session : Session) (ops : List SessionOp) :
    (session.documents ops).length = ops.length + 1 := by
  rw [documents, List.length_cons, List.length_map]
  congr 1
  induction ops generalizing session with
  | nil => rfl
  | cons op ops ih => exact congrArg (· + 1) (ih _)

/-! ## Edits -/

section Edits

structure Makes (session : Session) (ops : List SessionOp) : Prop where
  isEdit : ∀ op ∈ ops, op.isEdit = true
  succeeded : ∀ visit ∈ session.trace ops, visit.1.succeeded = true

theorem Makes.records {op : SessionOp} {ops : List SessionOp} (h : session.Makes (op :: ops))
    (hwell : session.history.WellFormed) :
    ∃ document label, session.Records document label (session.step op).2 := by
  have hedited := edited_step hwell (h.isEdit op List.mem_cons_self)
  rwa [h.succeeded _ List.mem_cons_self, Edited, if_pos rfl] at hedited

theorem Makes.tail {op : SessionOp} {ops : List SessionOp} (h : session.Makes (op :: ops)) :
    (session.step op).2.Makes ops where
  isEdit op hop := h.isEdit op (List.mem_cons_of_mem _ hop)
  succeeded visit hvisit := h.succeeded visit (List.mem_cons_of_mem _ hvisit)

private theorem Records.batch_eq_none {document : Document} {label : String} {after : Session}
    (h : session.Records document label after) (hbatch : session.history.batch = none) :
    after.history.batch = none := by
  rw [h.batch, History.batchMarked, hbatch, Option.map_none]

private theorem Records.line {document : Document} {label : String} {after : Session}
    (h : session.Records document label after) (hbatch : session.history.batch = none) :
    after.line = capped session.history.limit 0 (after.document :: session.line) := by
  have htrail := h.trail
  rw [History.extendsBatch_of_batch hbatch, if_neg Bool.false_ne_true] at htrail
  rw [Session.line, htrail, Trail.line_extend, map_capped, h.document_eq]
  rfl

private theorem line_after_edits {ops : List SessionOp} (h : session.Makes ops)
    (hwell : session.history.WellFormed) (hbatch : session.history.batch = none) :
    (session.after ops).line =
      capped session.history.limit 0 ((session.documents ops).tail.reverse ++ session.line) := by
  induction ops generalizing session with
  | nil => exact (capped_line hwell).symm
  | cons op ops ih =>
      obtain ⟨document, label, hrecords⟩ := h.records hwell
      have hrest := ih h.tail hrecords.wellFormed (hrecords.batch_eq_none hbatch)
      -- what the first edit has pushed past the limit would be past it at the end as well
      rw [hrecords.line hbatch, hrecords.limit, capped_append_capped] at hrest
      rw [after, Run.last]
      refine hrest.trans ?_
      rw [documents_cons, List.tail_cons, documents, List.reverse_cons, List.append_assoc]
      rfl

private theorem future_after_edits {ops : List SessionOp} (h : session.Makes ops)
    (hwell : session.history.WellFormed) :
    ∀ visit ∈ session.trace ops, visit.2.history.trail.future = [] := by
  induction ops generalizing session with
  | nil => simp [Run.trace]
  | cons op ops ih =>
      obtain ⟨document, label, hrecords⟩ := h.records hwell
      intro visit hvisit
      rcases List.mem_cons.mp hvisit with rfl | hvisit
      · exact hrecords.future_trail
      · exact ih h.tail hrecords.wellFormed visit hvisit

end Edits

/-! ## Walking along the line -/

section Walk

private theorem trail_step_undo (session : Session) :
    (session.step .undo).1 = .flag session.history.trail.undo.1 ∧
      (session.step .undo).2.history.trail = session.history.trail.undo.2 := by
  rw [History.trail_undo]
  exact ⟨rfl, rfl⟩

private theorem trail_step_redo (session : Session) :
    (session.step .redo).1 = .flag session.history.trail.redo.1 ∧
      (session.step .redo).2.history.trail = session.history.trail.redo.2 := by
  rw [History.trail_redo]
  exact ⟨rfl, rfl⟩

private theorem step_undo {document next : Document} {rest : List Document}
    (h : session.line = document :: next :: rest) :
    (session.step .undo).1 = .flag true ∧ (session.step .undo).2.line = next :: rest ∧
      (session.step .undo).2.ahead = document :: session.ahead := by
  obtain ⟨hreply, htrail⟩ := trail_step_undo session
  rw [hreply, line, ahead, htrail, ahead]
  rw [line] at h
  generalize session.history.trail = trail at h ⊢
  rcases trail with ⟨_ | ⟨snapshot, past⟩, current, future⟩
  · simp [Trail.line] at h
  · simp only [Trail.line, List.map_cons, List.cons.injEq] at h
    obtain ⟨rfl, rfl, rfl⟩ := h
    exact ⟨rfl, rfl, rfl⟩

private theorem step_redo {document : Document} {rest : List Document}
    (h : session.ahead = document :: rest) :
    (session.step .redo).1 = .flag true ∧ (session.step .redo).2.document = document ∧
      (session.step .redo).2.ahead = rest := by
  obtain ⟨hreply, htrail⟩ := trail_step_redo session
  have hdocument : (session.step .redo).2.document =
      session.history.trail.redo.2.current.document :=
    congrArg (·.current.document) htrail
  rw [hreply, hdocument, ahead, htrail]
  rw [ahead] at h
  generalize session.history.trail = trail at h ⊢
  rcases trail with ⟨past, current, _ | ⟨snapshot, future⟩⟩
  · simp at h
  · simp only [List.map_cons, List.cons.injEq] at h
    obtain ⟨rfl, rfl⟩ := h
    exact ⟨rfl, rfl, rfl⟩

theorem visits_cons (session : Session) (op : SessionOp) (ops : List SessionOp) :
    session.visits (op :: ops) =
      ((session.step op).1, (session.step op).2.document) :: (session.step op).2.visits ops := rfl

theorem walk_undo {count : Nat} (h : count < session.line.length) :
    session.visits (List.replicate count .undo) =
        (session.line.tail.take count).map (Prod.mk (.flag true)) ∧
      (session.after (List.replicate count .undo)).line = session.line.drop count ∧
      (session.after (List.replicate count .undo)).ahead =
        (session.line.take count).reverse ++ session.ahead := by
  induction count generalizing session with
  | zero => exact ⟨rfl, rfl, rfl⟩
  | succ count ih =>
      match hline : session.line with
      | [] => simp [hline] at h
      | [document] => simp [hline] at h
      | document :: next :: rest =>
          obtain ⟨hreply, hnext, hahead⟩ := step_undo hline
          have hroom : count < (session.step .undo).2.line.length := by
            rw [hnext]
            simpa [hline] using h
          obtain ⟨hvisits, hafter, hredo⟩ := ih hroom
          have hdocument : (session.step .undo).2.document = next := (List.cons.inj hnext).1
          rw [List.replicate_succ, visits_cons, hvisits, hreply, hdocument, hnext, after, Run.last]
          refine ⟨rfl, ?_, ?_⟩
          · exact hafter.trans (by rw [hnext]; rfl)
          · refine hredo.trans ?_
            rw [hnext, hahead]
            simp

private theorem walk_redo {count : Nat} (h : count ≤ session.ahead.length) :
    session.visits (List.replicate count .redo) =
      (session.ahead.take count).map (Prod.mk (.flag true)) := by
  induction count generalizing session with
  | zero => rfl
  | succ count ih =>
      match hahead : session.ahead with
      | [] => simp [hahead] at h
      | document :: rest =>
          obtain ⟨hreply, hdocument, hrest⟩ := step_redo hahead
          have hroom : count ≤ (session.step .redo).2.ahead.length := by
            rw [hrest]
            simpa [hahead] using h
          rw [List.replicate_succ, visits_cons, ih hroom, hreply, hdocument, hrest]
          rfl

theorem undo_of_single {document : Document} (h : session.line = [document]) :
    session.undo.1 = false ∧ session.undo.2.document = document := by
  obtain ⟨hdocument, hpast⟩ := List.cons.inj h
  have hempty : session.history.past = [] := by
    simpa [History.trail] using hpast
  rw [undo, History.undo, hempty]
  exact ⟨rfl, hdocument⟩

end Walk

/-! ## There and back -/

theorem line_eq_capped {ops : List SessionOp} (h : session.Makes ops)
    (hwell : session.history.WellFormed) (hbatch : session.history.batch = none) :
    (session.after ops).line = capped session.history.limit 0
      ((session.documents ops).reverse ++ session.history.trail.past.map Snapshot.document) := by
  rw [line_after_edits h hwell hbatch, line_eq, documents, List.reverse_cons, List.append_assoc]
  rfl

theorem undo_redo_within {ops : List SessionOp} (h : session.Makes ops)
    (hwell : session.history.WellFormed) (hbatch : session.history.batch = none)
    (hlimit : session.history.limit = 0 ∨ ops.length < session.history.limit) :
    (session.after ops).visits (List.replicate ops.length .undo) =
        (session.documents ops).dropLast.reverse.map (Prod.mk (.flag true)) ∧
      ((session.after ops).after (List.replicate ops.length .undo)).visits
          (List.replicate ops.length .redo) =
        (session.documents ops).tail.map (Prod.mk (.flag true)) := by
  have hlength := length_documents session ops
  have htake : (session.after ops).line.take (ops.length + 1) =
      (session.documents ops).reverse := by
    rw [line_eq_capped h hwell hbatch, take_capped hlimit]
    exact List.take_left' (by rw [List.length_reverse, hlength])
  have hroom : ops.length < (session.after ops).line.length := by
    have hcount := congrArg List.length htake
    rw [List.length_take, List.length_reverse, hlength] at hcount
    omega
  obtain ⟨hvisits, -, hahead⟩ := walk_undo hroom
  have hfirst : (session.after ops).line.take ops.length =
      (session.documents ops).tail.reverse := by
    have hfront := congrArg (List.take ops.length) htake
    rw [List.take_take, Nat.min_eq_left (Nat.le_succ _)] at hfront
    rw [hfront, List.take_reverse, hlength, Nat.add_sub_cancel_left, List.drop_one]
  constructor
  · have htail := congrArg List.tail htake
    rw [List.tail_reverse, ← List.drop_one, List.drop_take, Nat.add_sub_cancel,
      List.drop_one] at htail
    rw [hvisits, htail]
  · have hcount : ops.length = (session.documents ops).tail.length := by
      rw [List.length_tail, hlength, Nat.add_sub_cancel]
    rw [hfirst, List.reverse_reverse] at hahead
    rw [walk_redo (by rw [hahead, List.length_append]; omega), hahead,
      List.take_left' hcount.symm]

theorem undo_beyond {ops : List SessionOp} (h : session.Makes ops)
    (hwell : session.history.WellFormed) (hbatch : session.history.batch = none)
    (hpos : 0 < session.history.limit) (hlimit : session.history.limit ≤ ops.length) :
    (session.after ops).visits (List.replicate (session.history.limit - 1) .undo) =
        ((session.documents ops).drop
          (ops.length - session.history.limit + 1)).dropLast.reverse.map (Prod.mk (.flag true)) ∧
      ∃ document,
        (session.documents ops)[ops.length - session.history.limit + 1]? = some document ∧
        ((session.after ops).after
          (List.replicate (session.history.limit - 1) .undo)).line = [document] := by
  have hlength := length_documents session ops
  have hline : (session.after ops).line =
      ((session.documents ops).drop (ops.length - session.history.limit + 1)).reverse := by
    have hfits : session.history.limit ≤ (session.documents ops).reverse.length := by
      rw [List.length_reverse, hlength]
      omega
    have hcut : (session.documents ops).length - session.history.limit =
        ops.length - session.history.limit + 1 := by
      omega
    rw [line_eq_capped h hwell hbatch, capped, Nat.sub_zero, if_neg (Nat.pos_iff_ne_zero.mp hpos),
      List.take_append_of_le_length hfits, List.take_reverse, hcut]
  have hcount : (session.after ops).line.length = session.history.limit := by
    rw [hline, List.length_reverse, List.length_drop, hlength]
    omega
  have hroom : session.history.limit - 1 < (session.after ops).line.length := by
    omega
  obtain ⟨hvisits, hafter, -⟩ := walk_undo hroom
  have holdest : ops.length - session.history.limit + 1 < (session.documents ops).length := by
    omega
  constructor
  · have hall : (session.after ops).line.tail.length ≤ session.history.limit - 1 := by
      rw [List.length_tail]
      omega
    rw [hvisits, List.take_of_length_le hall, hline, List.tail_reverse]
  · refine ⟨_, List.getElem?_eq_getElem holdest, ?_⟩
    have hone : ((session.documents ops).drop (ops.length - session.history.limit + 1)).length -
        (session.history.limit - 1) = 1 := by
      rw [List.length_drop]
      omega
    rw [hafter, hline, List.drop_reverse, hone, List.drop_eq_getElem_cons holdest]
    rfl

theorem canRedo_after_edits {ops : List SessionOp} (h : session.Makes ops)
    (hwell : session.history.WellFormed) :
    ∀ visit ∈ session.trace ops, visit.2.history.canRedo = false ∧ visit.2.redo.1 = false := by
  intro visit hvisit
  have hfuture := future_after_edits h hwell visit hvisit
  have hempty : visit.2.history.future = [] := by
    simpa [History.trail] using hfuture
  rw [History.canRedo, redo, History.redo, hempty]
  exact ⟨rfl, rfl⟩

/-- Undo and redo are exact within the limit of the history, and stop where it ends. -/
theorem undo_redo_exact {ops : List SessionOp} (hreachable : session.Reachable)
    (hbatch : session.history.inBatch = false) (hedits : ∀ op ∈ ops, op.isEdit = true)
    (hmade : ∀ visit ∈ session.trace ops, visit.1.succeeded = true) :
    (session.history.limit = 0 ∨ ops.length < session.history.limit →
      (session.after ops).visits (List.replicate ops.length .undo) =
          (session.documents ops).dropLast.reverse.map (Prod.mk (.flag true)) ∧
        ((session.after ops).after (List.replicate ops.length .undo)).visits
            (List.replicate ops.length .redo) =
          (session.documents ops).tail.map (Prod.mk (.flag true))) ∧
      (0 < session.history.limit → session.history.limit ≤ ops.length →
        ∃ oldest,
          (session.documents ops)[ops.length - session.history.limit + 1]? = some oldest ∧
          (session.after ops).visits (List.replicate (session.history.limit - 1) .undo) =
            ((session.documents ops).drop
              (ops.length - session.history.limit + 1)).dropLast.reverse.map
                (Prod.mk (.flag true)) ∧
          ((session.after ops).after
            (List.replicate (session.history.limit - 1) .undo)).document = oldest ∧
          ((session.after ops).after
            (List.replicate (session.history.limit - 1) .undo)).visits [.undo] =
              [(.flag false, oldest)]) ∧
      (∀ visit ∈ session.trace ops,
        visit.2.history.canRedo = false ∧ visit.2.redo.1 = false) ∧
      ∀ other : Session, other.undo.2.version = other.version ∧
        other.redo.2.version = other.version := by
  have hwell := hreachable.wellFormed
  have hclosed : session.history.batch = none := by
    simpa [History.inBatch] using hbatch
  have hmakes : session.Makes ops := ⟨hedits, hmade⟩
  refine ⟨undo_redo_within hmakes hwell hclosed, ?_, canRedo_after_edits hmakes hwell, ?_⟩
  · intro hpos hlimit
    obtain ⟨hvisits, oldest, holdest, hline⟩ := undo_beyond hmakes hwell hclosed hpos hlimit
    obtain ⟨hrefused, hstays⟩ := undo_of_single hline
    refine ⟨oldest, holdest, hvisits, (List.cons.inj hline).1, ?_⟩
    rw [visits_cons, step, hrefused, hstays]
    rfl
  · intro other
    exact ⟨rfl, rfl⟩

theorem undo_redo_exact_two_entries :
    let add : SessionOp := .edit (.addElement [] .blank)
    let session := (start ⟨.blank, .empty⟩ 2).after [add, .undo]
    (session.after [add]).visits [.undo] = [(.flag true, session.document)] ∧
      ∃ oldest, (session.documents [add, add])[1]? = some oldest ∧
        ((session.after [add, add]).after [.undo]).visits [.undo] = [(.flag false, oldest)] := by
  intro add session
  have hreachable : session.Reachable := ⟨⟨.blank, .empty⟩, 2, [add, .undo], rfl⟩
  have hwithin := @undo_redo_exact session [add] hreachable rfl (by decide) (by decide)
  have hbeyond := @undo_redo_exact session [add, add] hreachable rfl (by decide) (by decide)
  obtain ⟨oldest, holdest, -, -, hundo⟩ := hbeyond.2.1 (by decide) (by decide)
  exact ⟨(hwithin.1 (.inr (by decide))).1, oldest, holdest, hundo⟩

end DocTemplate.Session

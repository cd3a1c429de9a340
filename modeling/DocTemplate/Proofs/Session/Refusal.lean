import DocTemplate.Proofs.Session.Run

/-!
# Undo and redo at the ends of a history

A move that is refused leaves the entries alone, and yet it ends the batch that is open.  Nothing of
that is seen in the documents of the edits to come, only in the steps they are undone by.
-/

namespace DocTemplate

def SessionOp.isMove : SessionOp → Bool
  | .undo => true
  | .redo => true
  | _ => false

namespace Session

variable {session : Session} {move op : SessionOp}

/-! ## Where a move is refused -/

theorem undo_refused_iff : (session.step .undo).1 = .flag false ↔ session.history.cursor = 0 := by
  have hreply : (session.step .undo).1 = .flag session.history.canUndo :=
    congrArg Reply.flag (History.fst_undo session.history)
  rw [hreply, Reply.flag.injEq, History.canUndo, Bool.not_eq_false', List.isEmpty_iff,
    History.cursor, List.length_eq_zero_iff]

theorem redo_refused_iff :
    (session.step .redo).1 = .flag false ↔
      session.history.cursor + 1 = session.history.length := by
  have hreply : (session.step .redo).1 = .flag session.history.canRedo :=
    congrArg Reply.flag (History.fst_redo session.history)
  rw [hreply, Reply.flag.injEq, History.canRedo, Bool.not_eq_false', List.isEmpty_iff,
    History.cursor, History.length, ← List.length_eq_zero_iff]
  omega

theorem step_of_refused_move (hmove : move.isMove = true)
    (hrefused : (session.step move).1 = .flag false) :
    (session.step move).2 = (session.step .endBatch).2 := by
  obtain ⟨⟨arena, past, current, future, limit, batch, compactAt⟩, version⟩ := session
  cases move with
  | undo =>
      cases past with
      | nil => rfl
      | cons entry past => cases hrefused
  | redo =>
      cases future with
      | nil => rfl
      | cons entry future => cases hrefused
  | _ => cases hmove

theorem endBatch_of_not_inBatch (h : session.history.inBatch = false) :
    (session.step .endBatch).2 = session := by
  obtain ⟨⟨arena, past, current, future, limit, batch, compactAt⟩, version⟩ := session
  obtain rfl : batch = none := by simpa [History.inBatch] using h
  rfl

theorem step_endBatch_of_isMove (hmove : move.isMove = true) :
    (session.step .endBatch).2.step move = session.step move := by
  cases move with
  | undo => rfl
  | redo => rfl
  | _ => cases hmove

/-! ## What a batch has no part in -/

def outcome (op : SessionOp) (visit : Reply × Session) : Option Reply × Document × Nat :=
  (if op.isEdit then some visit.1 else none, visit.2.document, visit.2.version)

def outcomes (session : Session) (ops : List SessionOp) : List (Option Reply × Document × Nat) :=
  List.zipWith outcome ops (session.trace ops)

/-- The same document in the same version, whatever the entries and the batch are. -/
structure Alike (first second : Session) : Prop where
  left : first.history.WellFormed
  right : second.history.WellFormed
  document : first.document = second.document
  version : first.version = second.version

variable {first second : Session}

theorem Alike.apply (h : first.Alike second) (edit : Edit) :
    (first.apply edit).1 = (second.apply edit).1 ∧
      (first.apply edit).2.Alike (second.apply edit).2 := by
  have hsecond := h.document
  cases hedit : edit.onDocument first.document with
  | error error =>
      rw [apply_of_error h.left hedit, apply_of_error h.right (hsecond ▸ hedit)]
      exact ⟨rfl, h⟩
  | ok document =>
      obtain ⟨left, hleft, hrecordsLeft⟩ := apply_of_ok h.left hedit
      obtain ⟨right, hright, hrecordsRight⟩ := apply_of_ok h.right (hsecond ▸ hedit)
      have htemplate : first.template = second.template := congrArg Document.template hsecond
      rw [hleft, hright, h.version, htemplate]
      refine ⟨rfl, hrecordsLeft.wellFormed, hrecordsRight.wellFormed, ?_, ?_⟩
      · rw [hrecordsLeft.document_eq, hrecordsRight.document_eq]
      · rw [hrecordsLeft.version, hrecordsRight.version, h.version]

theorem Alike.tryApply (h : first.Alike second) (edit : Edit) :
    (first.tryApply edit).1 = (second.tryApply edit).1 ∧
      (first.tryApply edit).2.Alike (second.tryApply edit).2 := by
  obtain ⟨hreply, halike⟩ := h.apply edit
  rw [tryApply_eq, tryApply_eq]
  generalize first.apply edit = left at hreply halike ⊢
  generalize second.apply edit = right at hreply halike ⊢
  obtain ⟨reply, left⟩ := left
  obtain ⟨_, right⟩ := right
  obtain rfl := hreply
  cases reply with
  | error error => exact ⟨rfl, halike⟩
  | ok result => exact ⟨rfl, halike⟩

private theorem Alike.applyText (h : first.Alike second) (text : TextEdit) :
    (first.applyText text).1 = (second.applyText text).1 ∧
      (first.applyText text).2.Alike (second.applyText text).2 := by
  rw [applyText_eq, applyText_eq]
  cases text.edit? with
  | none => exact ⟨rfl, h⟩
  | some edit => exact h.tryApply edit

private theorem outcome_of_alike {left right : Reply × Session}
    (hreply : op.isEdit = true → left.1 = right.1) (halike : left.2.Alike right.2) :
    outcome op left = outcome op right := by
  rw [outcome, outcome, halike.document, halike.version]
  split
  · next hedit => rw [hreply hedit]
  · rfl

/-- Only a move, which goes to another entry, could tell the two sessions apart. -/
theorem Alike.step (h : first.Alike second) (hop : op.isMove = false) :
    (op.isEdit = true → (first.step op).1 = (second.step op).1) ∧
      (first.step op).2.Alike (second.step op).2 := by
  cases op with
  | edit edit =>
      obtain ⟨hreply, halike⟩ := h.apply edit
      exact ⟨fun _ => congrArg Reply.edited hreply, halike⟩
  | editText text =>
      obtain ⟨hreply, halike⟩ := h.applyText text
      exact ⟨fun _ => congrArg Reply.flag hreply, halike⟩
  | updateTokens tokens =>
      obtain ⟨hreply, halike⟩ := h.tryApply (.updateTokens tokens)
      exact ⟨fun _ => congrArg Reply.flag hreply, halike⟩
  | undo => cases hop
  | redo => cases hop
  | beginBatch label =>
      exact ⟨fun _ => rfl, wellFormed_step h.left _, wellFormed_step h.right _, h.document,
        h.version⟩
  | endBatch =>
      refine ⟨fun hedit => ?_, wellFormed_step h.left _, wellFormed_step h.right _, h.document,
        h.version⟩
      cases hedit

theorem Alike.outcomes (h : first.Alike second) {ops : List SessionOp}
    (hops : ∀ op ∈ ops, op.isMove = false) : first.outcomes ops = second.outcomes ops := by
  induction ops generalizing first second with
  | nil => rfl
  | cons op ops ih =>
      obtain ⟨hop, hrest⟩ := List.forall_mem_cons.mp hops
      obtain ⟨hreply, halike⟩ := h.step hop
      exact congrArg₂ List.cons (outcome_of_alike hreply halike) (ih halike hrest)

theorem alike_endBatch (h : session.history.WellFormed) :
    (session.step .endBatch).2.Alike session :=
  ⟨wellFormed_step h .endBatch, h, rfl, rfl⟩

/-! ## Refused moves -/

/-- A move is refused exactly at its end of the history, and then does what the end of a batch does
and no more.  Without a batch the session is as before; with one, the next move or batch makes it
so, and until then the edits reply and lead to the same. -/
theorem refused_move_ends_the_batch (hreachable : session.Reachable) :
    ((session.step .undo).1 = .flag false ↔ session.history.cursor = 0) ∧
      ((session.step .redo).1 = .flag false ↔
        session.history.cursor + 1 = session.history.length) ∧
      ∀ move : SessionOp, move.isMove = true → (session.step move).1 = .flag false →
        let refused := (session.step move).2
        refused = (session.step .endBatch).2 ∧
          (session.history.inBatch = false → refused = session) ∧
          (∀ next : SessionOp, next.isMove = true → refused.step next = session.step next) ∧
          (∀ label, refused.step (.beginBatch label) = session.step (.beginBatch label)) ∧
          ∀ ops, (∀ op ∈ ops, op.isMove = false) → refused.outcomes ops = session.outcomes ops := by
  refine ⟨undo_refused_iff, redo_refused_iff, fun move hmove hrefused => ?_⟩
  intro refused
  have hends : refused = (session.step .endBatch).2 := step_of_refused_move hmove hrefused
  rw [hends]
  refine ⟨rfl, endBatch_of_not_inBatch, fun next => step_endBatch_of_isMove, fun _ => rfl, ?_⟩
  intro ops hops
  exact (alike_endBatch hreachable.wellFormed).outcomes hops

theorem refused_move_ends_the_batch_at_the_start :
    let session := (start ⟨.blank, .empty⟩ 0).beginBatch "both"
    let add : SessionOp := .edit (.addElement [] .blank)
    (session.step .undo).2 = (session.step .endBatch).2 ∧
      (session.step .undo).2.outcomes [add, .endBatch] = session.outcomes [add, .endBatch] := by
  intro session add
  have hreachable : session.Reachable := ⟨⟨.blank, .empty⟩, 0, [.beginBatch "both"], rfl⟩
  obtain ⟨hundo, -, hmoves⟩ := refused_move_ends_the_batch hreachable
  obtain ⟨hends, -, -, -, houtcomes⟩ := hmoves .undo rfl (hundo.mpr rfl)
  exact ⟨hends, houtcomes [add, .endBatch] (by decide)⟩

/-- An undo that is refused within a batch splits what would have been a single step. -/
theorem refused_undo_splits_a_batch :
    let session := (start ⟨.blank, .empty⟩ 0).beginBatch "both"
    let add : SessionOp := .edit (.addElement [] .blank)
    let ops := [add, add, .endBatch]
    let seen := fun visit : Reply × Session =>
      (visit.1.succeeded, visit.2.history.length, visit.2.history.undoLabel?)
    session.Reachable ∧ (session.step .undo).1 = .flag false ∧
      session.history.inBatch = true ∧ (session.step .undo).2.history.inBatch = false ∧
      (session.trace ops).map seen =
        [(true, 2, some "both"), (true, 2, some "both"), (true, 2, some "both")] ∧
      ((session.step .undo).2.trace ops).map seen =
        [(true, 2, some "Add element"), (true, 3, some "Add element"),
          (false, 3, some "Add element")] := by
  intro session add ops seen
  have hreachable : session.Reachable := ⟨⟨.blank, .empty⟩, 0, [.beginBatch "both"], rfl⟩
  exact ⟨hreachable, rfl, rfl, rfl, by decide, by decide⟩

end Session

end DocTemplate

import DocTemplate.Proofs.History.Ledger
import DocTemplate.Proofs.Session.Run

/-!
# Positions in a history

A session over a ledger looks up every entry it reads and computes every position it goes to.  From
the start of a session on, whatever the operations are, each of these accesses succeeds.
-/

namespace DocTemplate

/-! ## Sessions over ledgers -/

/-- The replies of a run with the states they leave, as long as every step has a result. -/
def Run.trace? {σ : Type} (step? : σ → SessionOp → Option (Reply × σ)) :
    σ → List SessionOp → Option (List (Reply × σ))
  | _, [] => some []
  | state, op :: ops => do
      let visit ← step? state op
      let visits ← trace? step? visit.2 ops
      return visit :: visits

structure LedgerSession where
  ledger : Ledger
  version : Nat

namespace LedgerSession

def start (document : Document) (limit : Nat) : LedgerSession :=
  let (root, arena) := (Arena.insertTree document.template).run .empty
  ⟨⟨arena, [⟨root, document.tokens, History.initialLabel⟩], 0, limit, none,
    History.nextCompactAt arena⟩, 0⟩

def applied? (session : LedgerSession) (edit : Edit) :
    Option (Except EditError EditResult × LedgerSession) :=
  session.ledger.current?.bind fun current =>
    match edit.applyTo session.ledger.arena current.root with
    | (.error error, arena) =>
        some (.error error, { session with ledger := { session.ledger with arena } })
    | (.ok root, arena) =>
        let edited : Ledger := { session.ledger with arena }
        let version := session.version + 1
        (edited.record? root (edit.tokensOver current.tokens) edit.label).map fun ledger =>
          (.ok ⟨version, edit.resultPath arena root⟩, ⟨ledger, version⟩)

def tryApply? (session : LedgerSession) (edit : Edit) : Option (Bool × LedgerSession) :=
  (session.applied? edit).map fun
    | (.ok _, after) => (true, after)
    | (.error _, after) => (false, after)

def applyText? (session : LedgerSession) (text : TextEdit) : Option (Bool × LedgerSession) :=
  match text.edit? with
  | none => some (false, session)
  | some edit => session.tryApply? edit

def step? (session : LedgerSession) : SessionOp → Option (Reply × LedgerSession)
  | .edit edit => (session.applied? edit).map fun (result, after) => (.edited result, after)
  | .editText text => (session.applyText? text).map fun (done, after) => (.flag done, after)
  | .updateTokens tokens =>
      (session.tryApply? (.updateTokens tokens)).map fun (done, after) => (.flag done, after)
  | .undo =>
      session.ledger.undo?.map fun (moved, ledger) => (.flag moved, { session with ledger })
  | .redo => some (.flag session.ledger.redo.1, { session with ledger := session.ledger.redo.2 })
  | .beginBatch label => some (.done, { session with ledger := session.ledger.beginBatch label })
  | .endBatch =>
      some (.flag session.ledger.endBatch.1, { session with ledger := session.ledger.endBatch.2 })

abbrev trace? : LedgerSession → List SessionOp → Option (List (Reply × LedgerSession)) :=
  Run.trace? step?

end LedgerSession

namespace Session

def overLedger (session : Session) : LedgerSession := ⟨session.history.ledger, session.version⟩

/-! ## Steps -/

theorem applied?_overLedger (session : Session) (edit : Edit) :
    session.overLedger.applied? edit =
      some ((session.apply edit).1, (session.apply edit).2.overLedger) := by
  have hcurrent : session.overLedger.ledger.current? = some session.history.current :=
    History.current?_ledger session.history
  rw [LedgerSession.applied?, hcurrent, Option.bind_some, apply]
  change (match edit.applyTo session.history.arena session.history.current.root with
    | (.error error, arena) => _
    | (.ok root, arena) => _) = _
  rcases edit.applyTo session.history.arena session.history.current.root with
    ⟨error | root, arena⟩
  · rfl
  · have hrecord := History.record?_ledger { session.history with arena } root
      (session.tokensAfter edit) edit.label
    rw [tokensAfter_eq] at hrecord
    exact (congrArg (Option.map _) hrecord).trans (by rw [tokensAfter_eq]; rfl)

theorem tryApply?_overLedger (session : Session) (edit : Edit) :
    session.overLedger.tryApply? edit =
      some ((session.tryApply edit).1, (session.tryApply edit).2.overLedger) := by
  rw [LedgerSession.tryApply?, applied?_overLedger, tryApply_eq]
  rcases session.apply edit with ⟨result, after⟩
  cases result <;> rfl

private theorem applyText?_overLedger (session : Session) (text : TextEdit) :
    session.overLedger.applyText? text =
      some ((session.applyText text).1, (session.applyText text).2.overLedger) := by
  rw [LedgerSession.applyText?, applyText_eq]
  cases text.edit? with
  | none => rfl
  | some edit => exact tryApply?_overLedger session edit

private theorem step?_overLedger (session : Session) (op : SessionOp) :
    session.overLedger.step? op =
      some ((session.step op).1, (session.step op).2.overLedger) := by
  cases op with
  | edit edit => rw [LedgerSession.step?, applied?_overLedger]; rfl
  | editText text => rw [LedgerSession.step?, applyText?_overLedger]; rfl
  | updateTokens tokens => rw [LedgerSession.step?, tryApply?_overLedger]; rfl
  | undo =>
      have hundo : session.overLedger.ledger.undo? = _ := History.undo?_ledger session.history
      rw [LedgerSession.step?, hundo]
      rfl
  | redo =>
      have hredo : session.overLedger.ledger.redo = _ := History.redo_ledger session.history
      rw [LedgerSession.step?, hredo]
      rfl
  | beginBatch label => rfl
  | endBatch => rfl

/-! ## Runs -/

theorem trace?_overLedger (session : Session) (ops : List SessionOp) :
    session.overLedger.trace? ops =
      some ((session.trace ops).map fun visit => (visit.1, visit.2.overLedger)) := by
  induction ops generalizing session with
  | nil => rfl
  | cons op ops ih =>
      simp only [LedgerSession.trace?, Run.trace?, step?_overLedger, Option.bind_eq_bind,
        Option.bind_some] at ih ⊢
      rw [ih]
      rfl

/-! ## The batch -/

variable {session : Session}

def BatchIsLast (session : Session) : Prop :=
  ∀ batch, session.history.batch = some batch → batch.recorded = true →
    session.history.future = []

theorem batchIsLast_of_none (h : session.history.batch = none) : session.BatchIsLast := by
  intro batch hbatch
  rw [h] at hbatch
  cases hbatch

private theorem Records.batchIsLast {document : Document} {label : String} {after : Session}
    (h : session.Records document label after) : after.BatchIsLast := by
  intro batch _ _
  simpa [History.trail] using h.future_trail

private theorem Edited.batchIsLast {succeeded : Bool} {after : Session}
    (h : session.Edited succeeded after) (hlast : session.BatchIsLast) : after.BatchIsLast := by
  rw [Edited] at h
  split at h
  · obtain ⟨document, label, hrecords⟩ := h
    exact hrecords.batchIsLast
  · rwa [h]

private theorem batchIsLast_step (hwell : session.history.WellFormed) (h : session.BatchIsLast)
    (op : SessionOp) : (session.step op).2.BatchIsLast := by
  cases op with
  | edit edit => exact (edited_step hwell rfl).batchIsLast h
  | editText text => exact (edited_step hwell rfl).batchIsLast h
  | updateTokens tokens => exact (edited_step hwell rfl).batchIsLast h
  | undo => exact batchIsLast_of_none (History.moved_undo session.history).batch
  | redo => exact batchIsLast_of_none (History.moved_redo session.history).batch
  | beginBatch label =>
      rintro batch hbatch hrecorded
      cases hbatch
      cases hrecorded
  | endBatch => exact batchIsLast_of_none rfl

theorem batchIsLast_after (hwell : session.history.WellFormed) (h : session.BatchIsLast)
    (ops : List SessionOp) : (session.after ops).BatchIsLast := by
  induction ops generalizing session with
  | nil => exact h
  | cons op ops ih => exact ih (wellFormed_step hwell op) (batchIsLast_step hwell h op)

theorem inRange_of_batchIsLast (hwell : session.history.WellFormed) (h : session.BatchIsLast) :
    session.history.ledger.InRange where
  nonempty := by simp [History.entries]
  cursor_lt := session.history.cursor_lt_length_entries
  bounded := by
    intro hpos
    rw [History.ledger_entries, History.length_entries]
    exact hwell.bounded.resolve_left (Nat.pos_iff_ne_zero.mp hpos)
  batch_atTail := by
    intro batch hbatch hrecorded
    rw [History.ledger_cursor, History.ledger_entries, History.length_entries_eq,
      h batch hbatch hrecorded]
    rfl

/-- Whatever the operations of a session are, its history is in range, and a session over a ledger
makes the same run: no access to the entries is out of range and no position underflows, neither
in the operations nor in the views of any state on the way. -/
theorem stays_in_range (document : Document) (limit : Nat) (ops : List SessionOp) :
    let session := (start document limit).after ops
    session.history.ledger.InRange ∧
      (LedgerSession.start document limit).trace? ops =
        some (((start document limit).trace ops).map
          fun visit => (visit.1, visit.2.overLedger)) ∧
      session.history.ledger.current? = some session.history.current ∧
      session.history.ledger.undoLabel? = some session.history.undoLabel? ∧
      session.history.ledger.redoLabel? = some session.history.redoLabel? := by
  intro session
  have hstart := wellFormed_start document limit
  have hlast : session.BatchIsLast :=
    batchIsLast_after hstart (batchIsLast_of_none rfl) ops
  exact ⟨inRange_of_batchIsLast (wellFormed_after hstart ops) hlast,
    trace?_overLedger (start document limit) ops, History.current?_ledger session.history,
    History.undoLabel?_ledger session.history, History.redoLabel?_ledger session.history⟩

end Session

end DocTemplate

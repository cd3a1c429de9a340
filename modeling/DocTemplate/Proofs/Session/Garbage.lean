import DocTemplate.Proofs.Arena.Unshared
import DocTemplate.Proofs.History.Ledger
import DocTemplate.Proofs.Session.Saving

/-!
# Garbage

Nodes that no snapshot needs any more stay in the arena until it is compacted.  A session with a log
of its compactions does what the session does, and the log tells when they are made: by an edit that
takes entries out of the history, and only where the arena has reached the threshold.  What a
compaction leaves is below the threshold that is set behind it, and so the arena is below the
threshold after every such edit.
-/

namespace DocTemplate

/-! ## Logs -/

structure Shrinkage where
  before : Nat
  after : Nat
  deriving DecidableEq, Repr

/-- The size right behind the last compaction, or the one at first where there is none. -/
def Shrinkage.lastSize (first : Nat) (shrinkages : List Shrinkage) : Nat :=
  (shrinkages.getLast?.map Shrinkage.after).getD first

private theorem Shrinkage.lastSize_append (first : Nat) (shrinkages later : List Shrinkage) :
    lastSize first (shrinkages ++ later) = lastSize (lastSize first shrinkages) later := by
  rw [lastSize, lastSize, List.getLast?_append]
  cases later.getLast? <;> rfl

structure Logged (α : Type) where
  result : α
  shrinkages : List Shrinkage

namespace Logged

variable {α β : Type}

def quiet (result : α) : Logged α := ⟨result, []⟩

def map (read : α → β) (logged : Logged α) : Logged β := ⟨read logged.result, logged.shrinkages⟩

end Logged

namespace History

/-! ## Recording with a log -/

section Record

variable (history : History) (root : NodeId) (tokens : DesignTokens) (label : String)

def compactLogged : Logged (Nat × History) :=
  ⟨history.compact, [⟨history.arena.size, history.compact.2.arena.size⟩]⟩

def compactWhenDueLogged : Logged History :=
  if history.arena.size < history.compactAt then .quiet history
  else
    history.compactLogged.map fun (_, compacted) =>
      { compacted with compactAt := nextCompactAt compacted.arena }

def trimmed : History :=
  let placed := history.placed root tokens label
  if placed.overLimit then placed.evict else placed

def recordLogged : Logged History :=
  let trimmed := history.trimmed root tokens label
  if history.extendsBatch || history.canRedo || (history.placed root tokens label).overLimit then
    trimmed.compactWhenDueLogged
  else .quiet trimmed

private theorem result_compactWhenDueLogged :
    history.compactWhenDueLogged.result = history.compactWhenDue := by
  rw [compactWhenDueLogged, compactWhenDue]
  split <;> rfl

theorem record_trimmed :
    history.record root tokens label =
      if history.extendsBatch || history.canRedo || (history.placed root tokens label).overLimit
      then (history.trimmed root tokens label).compactWhenDue
      else history.trimmed root tokens label := rfl

private theorem result_recordLogged :
    (history.recordLogged root tokens label).result = history.record root tokens label := by
  rw [recordLogged, record_trimmed]
  split
  · exact result_compactWhenDueLogged _
  · rfl

private theorem arena_trimmed : (history.trimmed root tokens label).arena = history.arena := by
  rw [trimmed, placed]
  split <;> split <;> rfl

private theorem compactAt_trimmed :
    (history.trimmed root tokens label).compactAt = history.compactAt := by
  rw [trimmed, placed]
  split <;> split <;> rfl

end Record

/-! ## Dropped entries -/

variable {history after : History} {dropping : Prop} {shrinkages : List Shrinkage}

/-- A snapshot that is recorded takes entries out of the history: that of the batch, those that can
be redone, or the oldest one where the entries up to the cursor fill the limit. -/
def Drops (history : History) : Prop :=
  history.extendsBatch = true ∨ history.canRedo = true ∨
    (0 < history.limit ∧ history.limit ≤ history.cursor + 1)

instance (history : History) : Decidable history.Drops :=
  inferInstanceAs (Decidable (_ ∨ _ ∨ _ ∧ _))

private theorem drops_iff (root : NodeId) (tokens : DesignTokens) (label : String) :
    history.Drops ↔ (history.extendsBatch || history.canRedo ||
      (history.placed root tokens label).overLimit) = true := by
  rw [Drops, Bool.or_eq_true, Bool.or_eq_true, or_assoc]
  -- a batch that has its entry drops that one, and then the limit does not matter
  cases hextends : history.extendsBatch with
  | true => simp
  | false =>
      have hover : (history.placed root tokens label).overLimit = true ↔
          0 < history.limit ∧ history.limit ≤ history.cursor + 1 := by
        simp only [placed, hextends, Bool.false_eq_true, if_false, overLimit, appended, length,
          List.length_cons, List.length_nil, Bool.and_eq_true, decide_eq_true_eq, cursor]
        omega
      rw [hover]

/-! ## Compactions -/

private theorem size_lt_nextCompactAt (arena : Arena) : arena.size < nextCompactAt arena := by
  rw [nextCompactAt, minCompactAt]
  omega

theorem nextCompactAt_eq (arena : Arena) : nextCompactAt arena = max 1024 (2 * arena.size) :=
  Nat.max_comm ..

/-- An arena that has grown up to `grown` is compacted where entries are dropped and it has reached
the threshold, and there is a new threshold then; otherwise arena and threshold stay as they are. -/
inductive Reclaims (after : History) (threshold : Nat) (grown : Arena) (dropping : Prop) :
    List Shrinkage → Prop where
  | kept (hkept : dropping → grown.size < threshold) (harena : after.arena = grown)
      (hsame : after.compactAt = threshold) : Reclaims after threshold grown dropping []
  | compacted (hdropping : dropping) (hreached : threshold ≤ grown.size)
      (hnext : after.compactAt = nextCompactAt after.arena) :
      Reclaims after threshold grown dropping [⟨grown.size, after.arena.size⟩]

namespace Reclaims

variable {threshold : Nat} {grown : Arena}

theorem size_lt (h : after.Reclaims threshold grown dropping shrinkages) (hdropping : dropping) :
    after.arena.size < after.compactAt := by
  cases h with
  | kept hkept harena hsame =>
      rw [harena, hsame]
      exact hkept hdropping
  | compacted _ _ hnext =>
      rw [hnext]
      exact size_lt_nextCompactAt after.arena

private theorem compactAt_eq (h : after.Reclaims threshold grown dropping shrinkages) {last : Nat}
    (hlast : threshold = max 1024 (2 * last)) :
    after.compactAt = max 1024 (2 * Shrinkage.lastSize last shrinkages) := by
  cases h with
  | kept _ _ hsame => exact hsame.trans hlast
  | compacted _ _ hnext => exact hnext.trans (nextCompactAt_eq after.arena)

theorem of_due (h : after.Reclaims threshold grown dropping shrinkages)
    (hdue : dropping ∧ threshold ≤ grown.size) :
    shrinkages = [⟨grown.size, after.arena.size⟩] := by
  cases h with
  | kept hkept _ _ => exact absurd (hkept hdue.1) (Nat.not_lt.mpr hdue.2)
  | compacted _ _ _ => rfl

theorem of_not_due (h : after.Reclaims threshold grown dropping shrinkages)
    (hdue : ¬(dropping ∧ threshold ≤ grown.size)) :
    shrinkages = [] ∧ after.arena = grown ∧ after.compactAt = threshold := by
  cases h with
  | kept _ harena hsame => exact ⟨rfl, harena, hsame⟩
  | compacted hdropping hreached _ => exact absurd ⟨hdropping, hreached⟩ hdue

theorem congr {dropped : Prop} (h : after.Reclaims threshold grown dropping shrinkages)
    (hiff : dropping ↔ dropped) : after.Reclaims threshold grown dropped shrinkages :=
  propext hiff ▸ h

end Reclaims

private theorem reclaims_compactWhenDue (history : History) :
    history.compactWhenDue.Reclaims history.compactAt history.arena True
      history.compactWhenDueLogged.shrinkages := by
  rw [compactWhenDueLogged, compactWhenDue]
  split
  · next hkept => exact .kept (fun _ => hkept) rfl rfl
  · next hreached => exact .compacted trivial (Nat.le_of_not_lt hreached) rfl

private theorem reclaims_record (history : History) (root : NodeId) (tokens : DesignTokens)
    (label : String) :
    (history.record root tokens label).Reclaims history.compactAt history.arena history.Drops
      (history.recordLogged root tokens label).shrinkages := by
  have hdrops := history.drops_iff root tokens label
  have harena := arena_trimmed history root tokens label
  have hsame := compactAt_trimmed history root tokens label
  rw [recordLogged, record_trimmed]
  split
  · next hdropping =>
      have hdue := reclaims_compactWhenDue (history.trimmed root tokens label)
      rw [harena, hsame] at hdue
      exact hdue.congr (iff_of_true trivial (hdrops.mpr hdropping))
  · next hkept =>
      exact .kept (fun hdropping => absurd (hdrops.mp hdropping) hkept) harena hsame

private theorem compactAt_undo (history : History) :
    history.undo.2.compactAt = history.compactAt := by
  cases hpast : history.past <;> simp [undo, hpast]

private theorem compactAt_redo (history : History) :
    history.redo.2.compactAt = history.compactAt := by
  cases hfuture : history.future <;> simp [redo, hfuture]

end History

namespace Session

/-! ## Sessions with a log -/

section Step

variable (session : Session)

def applyLogged (edit : Edit) : Logged (Except EditError EditResult × Session) :=
  match edit.applyTo session.history.arena session.history.current.root with
  | (.error error, arena) =>
      .quiet (.error error, { session with history := { session.history with arena } })
  | (.ok root, arena) =>
      let path := edit.resultPath arena root
      let edited : History := { session.history with arena }
      let version := session.version + 1
      (edited.recordLogged root (session.tokensAfter edit) edit.label).map fun history =>
        (.ok ⟨version, path⟩, ⟨history, version⟩)

def tryApplyLogged (edit : Edit) : Logged (Bool × Session) :=
  (session.applyLogged edit).map fun
    | (.ok _, after) => (true, after)
    | (.error _, after) => (false, after)

def applyTextLogged (text : TextEdit) : Logged (Bool × Session) :=
  match text.edit? with
  | none => .quiet (false, session)
  | some edit => session.tryApplyLogged edit

def stepLogged : SessionOp → Logged (Reply × Session)
  | .edit edit => (session.applyLogged edit).map fun (result, after) => (.edited result, after)
  | .editText text => (session.applyTextLogged text).map fun (done, after) => (.flag done, after)
  | .updateTokens tokens =>
      (session.tryApplyLogged (.updateTokens tokens)).map fun (done, after) => (.flag done, after)
  | .undo => .quiet (session.step .undo)
  | .redo => .quiet (session.step .redo)
  | .beginBatch label => .quiet (session.step (.beginBatch label))
  | .endBatch => .quiet (session.step .endBatch)

theorem result_applyLogged (edit : Edit) :
    (session.applyLogged edit).result = session.apply edit := by
  rw [applyLogged, apply]
  rcases edit.applyTo session.history.arena session.history.current.root with
    ⟨error | root, arena⟩
  · rfl
  · simp only [Logged.map, History.result_recordLogged]

theorem result_tryApplyLogged (edit : Edit) :
    (session.tryApplyLogged edit).result = session.tryApply edit := by
  rw [tryApplyLogged, Logged.map, result_applyLogged]
  rfl

private theorem result_applyTextLogged (text : TextEdit) :
    (session.applyTextLogged text).result = session.applyText text := by
  rw [applyTextLogged, applyText_eq]
  cases text.edit? with
  | none => rfl
  | some edit => exact result_tryApplyLogged session edit

theorem result_stepLogged (op : SessionOp) : (session.stepLogged op).result = session.step op := by
  cases op with
  | edit edit => rw [stepLogged, Logged.map, result_applyLogged]; rfl
  | editText text => rw [stepLogged, Logged.map, result_applyTextLogged]; rfl
  | updateTokens tokens => rw [stepLogged, Logged.map, result_tryApplyLogged]; rfl
  | undo => rfl
  | redo => rfl
  | beginBatch label => rfl
  | endBatch => rfl

end Step

def afterLogged (session : Session) : List SessionOp → Logged Session
  | [] => .quiet session
  | op :: ops =>
      let first := session.stepLogged op
      let rest := afterLogged first.result.2 ops
      ⟨rest.result, first.shrinkages ++ rest.shrinkages⟩

theorem result_afterLogged (session : Session) (ops : List SessionOp) :
    (session.afterLogged ops).result = session.after ops := by
  induction ops generalizing session with
  | nil => rfl
  | cons op ops ih =>
      calc (session.afterLogged (op :: ops)).result
          = (session.stepLogged op).result.2.after ops := ih _
        _ = (session.step op).2.after ops := by rw [result_stepLogged]

/-! ## Steps -/

variable {session : Session}

def grown (session : Session) (op : SessionOp) : Arena :=
  match op.edit? with
  | none => session.history.arena
  | some edit => (edit.applyTo session.history.arena session.history.current.root).2

/-- The operation is an edit that is made, and its snapshot takes entries out of the history. -/
def DropsBy (session : Session) (op : SessionOp) : Prop :=
  op.isEdit = true ∧ (session.step op).1.succeeded = true ∧ session.history.Drops

instance (session : Session) (op : SessionOp) : Decidable (session.DropsBy op) :=
  inferInstanceAs (Decidable (_ ∧ _ ∧ _))

theorem reclaims_apply (session : Session) (edit : Edit) :
    (session.apply edit).2.history.Reclaims session.history.compactAt
      (edit.applyTo session.history.arena session.history.current.root).2
      ((Reply.edited (session.apply edit).1).succeeded = true ∧ session.history.Drops)
      (session.applyLogged edit).shrinkages := by
  rw [apply, applyLogged]
  rcases edit.applyTo session.history.arena session.history.current.root with
    ⟨error | root, arena⟩
  · exact .kept (fun hdropping => absurd hdropping.1 Bool.false_ne_true) rfl rfl
  · have hrecord := History.reclaims_record { session.history with arena } root
      (session.tokensAfter edit) edit.label
    exact hrecord.congr ⟨fun hdrops => ⟨rfl, hdrops⟩, And.right⟩

theorem reclaims_tryApply (session : Session) (edit : Edit) :
    (session.tryApply edit).2.history.Reclaims session.history.compactAt
      (edit.applyTo session.history.arena session.history.current.root).2
      ((session.tryApply edit).1 = true ∧ session.history.Drops)
      (session.tryApplyLogged edit).shrinkages := by
  have happly := reclaims_apply session edit
  rw [tryApply_eq, tryApplyLogged]
  generalize session.apply edit = visit at happly ⊢
  obtain ⟨error | result, after⟩ := visit
  · exact happly
  · exact happly

private theorem reclaims_applyText (session : Session) (text : TextEdit) :
    (session.applyText text).2.history.Reclaims session.history.compactAt
      (session.grown (.editText text))
      ((session.applyText text).1 = true ∧ session.history.Drops)
      (session.applyTextLogged text).shrinkages := by
  rw [applyText_eq, applyTextLogged, grown, SessionOp.edit?]
  cases text.edit? with
  | none => exact .kept (fun hdropping => absurd hdropping.1 Bool.false_ne_true) rfl rfl
  | some edit => exact reclaims_tryApply session edit

private theorem reclaims_of_same {after : History} {op : SessionOp} (hop : op.isEdit = false)
    (harena : after.arena = session.history.arena)
    (hsame : after.compactAt = session.history.compactAt) :
    after.Reclaims session.history.compactAt session.history.arena (session.DropsBy op) [] :=
  .kept (fun hdrops => absurd (hop ▸ hdrops.1) Bool.false_ne_true) harena hsame

theorem reclaims_step (session : Session) (op : SessionOp) :
    (session.step op).2.history.Reclaims session.history.compactAt (session.grown op)
      (session.DropsBy op) (session.stepLogged op).shrinkages := by
  cases op with
  | edit edit => exact (reclaims_apply session edit).congr ⟨fun h => ⟨rfl, h⟩, And.right⟩
  | editText text => exact (reclaims_applyText session text).congr ⟨fun h => ⟨rfl, h⟩, And.right⟩
  | updateTokens tokens =>
      exact (reclaims_tryApply session _).congr ⟨fun h => ⟨rfl, h⟩, And.right⟩
  | undo =>
      exact reclaims_of_same rfl (History.moved_undo session.history).arena
        (History.compactAt_undo session.history)
  | redo =>
      exact reclaims_of_same rfl (History.moved_redo session.history).arena
        (History.compactAt_redo session.history)
  | beginBatch label => exact reclaims_of_same rfl rfl rfl
  | endBatch => exact reclaims_of_same rfl rfl rfl

private theorem Records.drops_iff_length_le {document : Document} {label : String} {after : Session}
    (h : session.Records document label after) :
    session.history.Drops ↔ after.history.length ≤ session.history.length := by
  have htrail := h.trail
  rw [← length_snapshots after.history, History.snapshots_eq, htrail]
  cases hextends : session.history.extendsBatch with
  | true =>
      rw [if_pos rfl, Trail.snapshots_replace, List.length_set, ← History.snapshots_eq,
        length_snapshots]
      exact iff_of_true (.inl hextends) (Nat.le_refl _)
  | false =>
      have hredo : session.history.canRedo = true ↔ 0 < session.history.future.length := by
        simp [History.canRedo, List.length_pos_iff]
      rw [if_neg Bool.false_ne_true, Trail.length_snapshots, History.Drops, hextends, hredo]
      simp only [Trail.extend, Trail.line, length_capped, History.trail, History.length,
        History.cursor, List.length_cons, List.length_nil, List.length_map, Bool.false_eq_true,
        false_or]
      split <;> omega

theorem drops_iff_length_le (hwell : session.history.WellFormed) {op : SessionOp}
    (hop : op.isEdit = true) (hmade : (session.step op).1.succeeded = true) :
    session.history.Drops ↔ (session.step op).2.history.length ≤ session.history.length := by
  have hedited := edited_step hwell hop
  rw [hmade] at hedited
  obtain ⟨document, label, hrecords⟩ := hedited
  exact hrecords.drops_iff_length_le

/-! ## Runs -/

theorem compactAt_after {first : Nat}
    (hfirst : session.history.compactAt = max 1024 (2 * first)) (ops : List SessionOp) :
    (session.after ops).history.compactAt =
      max 1024 (2 * Shrinkage.lastSize first (session.afterLogged ops).shrinkages) := by
  -- `first` is the size behind the last compaction before the operations that are left
  induction ops generalizing session first with
  | nil => exact hfirst
  | cons op ops ih =>
      have hstep := (reclaims_step session op).compactAt_eq hfirst
      rw [afterLogged, Shrinkage.lastSize_append, result_stepLogged]
      exact ih hstep

theorem size_start (document : Document) (limit : Nat) :
    (start document limit).history.arena.size = document.template.nodeCount := by
  have hsize := (Arena.nodesBelow_insertTree document.template Arena.wellFormed_empty).1
  exact hsize.trans (Nat.zero_add _)

/-- Whatever the operations of a session are, its threshold is 1024 or twice the size that the last
compaction has left, twice the size of the first document where there was none.  The arena is below
the threshold after every edit that drops entries.  It is compacted in such an edit if it has
reached the threshold with the nodes that the edit adds, and in no other operation.  An edit drops
entries exactly if there are no more of them than before. -/
theorem garbage_stays_below_threshold (document : Document) (limit : Nat) (ops : List SessionOp) :
    let session := (start document limit).after ops
    let run := (start document limit).afterLogged ops
    run.result = session ∧
      (start document limit).history.arena.size = document.template.nodeCount ∧
      session.history.compactAt =
        max 1024 (2 * Shrinkage.lastSize document.template.nodeCount run.shrinkages) ∧
      ∀ op,
        let after := (session.step op).2
        let shrinkages := (session.stepLogged op).shrinkages
        let due := session.DropsBy op ∧ session.history.compactAt ≤ (session.grown op).size
        (session.stepLogged op).result = session.step op ∧
          (session.DropsBy op → after.history.arena.size < after.history.compactAt) ∧
          (due → shrinkages = [⟨(session.grown op).size, after.history.arena.size⟩]) ∧
          (¬due → shrinkages = [] ∧ after.history.arena = session.grown op ∧
            after.history.compactAt = session.history.compactAt) ∧
          (op.isEdit = true → (session.step op).1.succeeded = true →
            (session.history.Drops ↔ after.history.length ≤ session.history.length)) := by
  intro session run
  have hwell : session.history.WellFormed := wellFormed_after (wellFormed_start document limit) ops
  have hstart : (start document limit).history.compactAt =
      max 1024 (2 * document.template.nodeCount) := by
    rw [← size_start document limit]
    exact History.nextCompactAt_eq (start document limit).history.arena
  refine ⟨result_afterLogged (start document limit) ops, size_start document limit,
    compactAt_after hstart ops, fun op => ?_⟩
  have hreclaims := reclaims_step session op
  exact ⟨result_stepLogged session op, hreclaims.size_lt, hreclaims.of_due, hreclaims.of_not_due,
    drops_iff_length_le hwell⟩

set_option maxRecDepth 10000 in
/-- With room for one entry every edit drops one, and here it adds a thousand nodes. -/
example :
    let session := start ⟨.blank, .empty⟩ 1
    let add : SessionOp := .edit (.addElement .root (.frame (List.replicate 1023 .divider)))
    session.DropsBy add ∧ session.history.compactAt ≤ (session.grown add).size := by
  decide +kernel

end Session

end DocTemplate

import DocTemplate.Edit.Session
import DocTemplate.Proofs.Edit.Refinement
import DocTemplate.Proofs.History.Operations

/-!
# Runs of a session

The operations of a session as data, the replies they give, and runs of operations one after
another.  An edit is either refused, and then the session stays as it is, or it records one
snapshot; every state that a run reaches is well-formed.
-/

namespace DocTemplate

/-! ## Operations -/

inductive TextEdit where
  | update (path : String) (patch : Object)
  | add (parent : String) (element : Element)
  | insert (parent : String) (index : Nat) (element : Element)
  | remove (path : String)
  | move (source target : String) (index : Nat)

namespace TextEdit

def paths : TextEdit → List String
  | .update path _ => [path]
  | .add parent _ => [parent]
  | .insert parent _ _ => [parent]
  | .remove path => [path]
  | .move source target _ => [source, target]

def path? (text : String) : Option ElementPath := (ElementPath.parse text).toOption

def edit? : TextEdit → Option Edit
  | .update path patch => (path? path).map fun path => .updateElement path patch
  | .add parent element => (path? parent).map fun parent => .addElement parent element
  | .insert parent index element =>
      (path? parent).map fun parent => .insertElement parent index element
  | .remove path => (path? path).map .removeElement
  | .move source target index =>
      match path? source, path? target with
      | some source, some target => some (.moveElement source target index)
      | _, _ => none

private theorem path?_eq_none_iff {text : String} :
    path? text = none ↔ ∃ fault, ElementPath.parse text = .error fault := by
  rw [path?]
  cases ElementPath.parse text with
  | error fault => simp [Except.toOption]
  | ok path => simp [Except.toOption]

theorem edit?_eq_none_iff (text : TextEdit) :
    text.edit? = none ↔ ∃ path ∈ text.paths, ∃ fault, ElementPath.parse path = .error fault := by
  simp only [← path?_eq_none_iff]
  cases text with
  | move source target index =>
      cases hsource : path? source <;> cases htarget : path? target <;>
        simp [edit?, paths, hsource, htarget]
  | _ => simp [edit?, paths]

end TextEdit

inductive SessionOp where
  | edit (edit : Edit)
  | editText (edit : TextEdit)
  | updateTokens (tokens : DesignTokens)
  | undo
  | redo
  | beginBatch (label : String)
  | endBatch

inductive Reply where
  | edited (result : Except EditError EditResult)
  | flag (value : Bool)
  | done

def SessionOp.isEdit : SessionOp → Bool
  | .edit _ => true
  | .editText _ => true
  | .updateTokens _ => true
  | _ => false

def Reply.succeeded : Reply → Bool
  | .edited (.ok _) => true
  | .edited (.error _) => false
  | .flag value => value
  | .done => true

/-! ## Runs -/

namespace Run

variable {σ : Type}

def trace (step : σ → SessionOp → Reply × σ) : σ → List SessionOp → List (Reply × σ)
  | _, [] => []
  | state, op :: ops => step state op :: trace step (step state op).2 ops

def last (step : σ → SessionOp → Reply × σ) : σ → List SessionOp → σ
  | state, [] => state
  | state, op :: ops => last step (step state op).2 ops

end Run

namespace Session

def applyText (session : Session) : TextEdit → Bool × Session
  | .update path patch => session.updateAt path patch
  | .add parent element => session.addAt parent element
  | .insert parent index element => session.insertAt parent index element
  | .remove path => session.removeAt path
  | .move source target index => session.moveAt source target index

def step (session : Session) : SessionOp → Reply × Session
  | .edit edit => (.edited (session.apply edit).1, (session.apply edit).2)
  | .editText edit => (.flag (session.applyText edit).1, (session.applyText edit).2)
  | .updateTokens tokens =>
      (.flag (session.updateTokens tokens).1, (session.updateTokens tokens).2)
  | .undo => (.flag session.undo.1, session.undo.2)
  | .redo => (.flag session.redo.1, session.redo.2)
  | .beginBatch label => (.done, session.beginBatch label)
  | .endBatch => (.flag session.endBatch.1, session.endBatch.2)

abbrev trace : Session → List SessionOp → List (Reply × Session) := Run.trace step

abbrev after : Session → List SessionOp → Session := Run.last step

def Reachable (session : Session) : Prop :=
  ∃ document limit ops, session = (start document limit).after ops

/-! ## Edits -/

variable {session : Session}

theorem tryApply_eq (session : Session) (edit : Edit) :
    session.tryApply edit =
      match session.apply edit with
      | (.ok _, after) => (true, after)
      | (.error _, after) => (false, after) := rfl

theorem applyText_eq (session : Session) (text : TextEdit) :
    session.applyText text =
      match text.edit? with
      | none => (false, session)
      | some edit => session.tryApply edit := by
  cases text with
  | update path patch =>
      rw [applyText, updateAt, applyAt, TextEdit.edit?, TextEdit.path?]
      cases ElementPath.parse path <;> rfl
  | add parent element =>
      rw [applyText, addAt, applyAt, TextEdit.edit?, TextEdit.path?]
      cases ElementPath.parse parent <;> rfl
  | insert parent index element =>
      rw [applyText, insertAt, applyAt, TextEdit.edit?, TextEdit.path?]
      cases ElementPath.parse parent <;> rfl
  | remove path =>
      rw [applyText, removeAt, applyAt, TextEdit.edit?, TextEdit.path?]
      cases ElementPath.parse path <;> rfl
  | move source target index =>
      rw [applyText, moveAt, TextEdit.edit?, TextEdit.path?, TextEdit.path?]
      cases htarget : ElementPath.parse target <;> cases hsource : ElementPath.parse source <;>
        simp [applyAt, hsource, Except.toOption]

structure Records (before : Session) (document : Document) (label : String) (after : Session) :
    Prop where
  wellFormed : after.history.WellFormed
  trail : after.history.trail =
    if before.history.extendsBatch then
      before.history.trail.replace ⟨document, before.history.labelFor label⟩
    else before.history.trail.extend before.history.limit
      ⟨document, before.history.labelFor label⟩
  limit : after.history.limit = before.history.limit
  batch : after.history.batch = before.history.batchMarked
  version : after.version = before.version + 1

theorem document_of_trail {trail : Trail} (h : session.history.trail = trail) :
    session.document = trail.current.document := by
  rw [← h]
  rfl

theorem Records.document_eq {document : Document} {label : String} {after : Session}
    (h : session.Records document label after) : after.document = document := by
  have htrail := h.trail
  rw [document_of_trail htrail]
  split <;> rfl

theorem Records.future_trail {document : Document} {label : String} {after : Session}
    (h : session.Records document label after) : after.history.trail.future = [] := by
  have htrail := h.trail
  rw [htrail]
  split
  · next hextends => exact History.future_trail_of_extendsBatch hextends
  · rfl

theorem tokensAfter_eq (session : Session) (edit : Edit) :
    session.tokensAfter edit = edit.tokensOver session.tokens := by
  cases edit <;> rfl

theorem apply_of_error {edit : Edit} {error : EditError} (h : session.history.WellFormed)
    (hedit : edit.onDocument session.document = .error error) :
    session.apply edit = (.error error, session) := by
  have htree : edit.onTree session.template = .error error := by
    rw [Edit.onDocument] at hedit
    split at hedit
    · next heq =>
        cases hedit
        exact heq
    · cases hedit
  rw [apply, Edit.applyTo_of_error h.arena h.current_lt htree]

theorem apply_of_ok {edit : Edit} {document : Document} (h : session.history.WellFormed)
    (hedit : edit.onDocument session.document = .ok document) :
    ∃ after,
      session.apply edit = (.ok ⟨session.version + 1, edit.placeIn session.template⟩, after) ∧
        session.Records document edit.label after := by
  rw [Edit.onDocument] at hedit
  split at hedit
  · cases hedit
  · next tree htree =>
      cases hedit
      obtain ⟨root, arena, happly, hgrowth, hholds, hplace⟩ :=
        Edit.applyTo_of_ok h.arena h.current_lt htree
      have hgrown := History.agrees_grow h hgrowth hholds.wellFormed
      have hrecord := History.agrees_record root (session.tokensAfter edit) edit.label
        hgrown.wellFormed hholds.lt_size
      have htrail := hrecord.trail
      rw [History.trail_recorded, hgrown.trail, History.snapshotOf, hholds.build_single,
        tokensAfter_eq] at htrail
      refine ⟨_, by rw [apply, happly]; simp only [hplace]; rfl, ?_⟩
      exact ⟨hrecord.wellFormed, htrail, hrecord.limit, hrecord.batch, rfl⟩

theorem apply_cases (h : session.history.WellFormed) (edit : Edit) :
    (∃ error, session.apply edit = (.error error, session)) ∨
      ∃ result document after, session.apply edit = (.ok result, after) ∧
        session.Records document edit.label after := by
  cases hedit : edit.onDocument session.document with
  | error error => exact .inl ⟨error, apply_of_error h hedit⟩
  | ok document =>
      obtain ⟨after, happly, hrecords⟩ := apply_of_ok h hedit
      exact .inr ⟨_, document, after, happly, hrecords⟩

/-- A refused edit leaves the session as it was; any other has been recorded. -/
def Edited (before : Session) (succeeded : Bool) (after : Session) : Prop :=
  if succeeded then ∃ document label, before.Records document label after else after = before

private theorem edited_tryApply (h : session.history.WellFormed) (edit : Edit) :
    session.Edited (session.tryApply edit).1 (session.tryApply edit).2 := by
  rw [tryApply_eq]
  rcases apply_cases h edit with ⟨error, happly⟩ | ⟨result, document, after, happly, hrecords⟩
  · rw [happly]
    rfl
  · rw [happly]
    exact ⟨document, edit.label, hrecords⟩

theorem edited_step (h : session.history.WellFormed) {op : SessionOp} (hop : op.isEdit = true) :
    session.Edited (session.step op).1.succeeded (session.step op).2 := by
  cases op with
  | edit edit =>
      rw [step]
      rcases apply_cases h edit with ⟨error, happly⟩ | ⟨result, document, after, happly, hrecords⟩
      · rw [happly]
        rfl
      · rw [happly]
        exact ⟨document, edit.label, hrecords⟩
  | editText text =>
      rw [step, applyText_eq]
      cases text.edit? with
      | none => exact rfl
      | some edit => exact edited_tryApply h edit
  | updateTokens tokens => exact edited_tryApply h (.updateTokens tokens)
  | undo => cases hop
  | redo => cases hop
  | beginBatch label => cases hop
  | endBatch => cases hop

/-! ## Reachable sessions -/

private theorem Edited.wellFormed {succeeded : Bool} {after : Session}
    (h : session.Edited succeeded after) (hwell : session.history.WellFormed) :
    after.history.WellFormed := by
  rw [Edited] at h
  split at h
  · obtain ⟨document, label, hrecords⟩ := h
    exact hrecords.wellFormed
  · rwa [h]

theorem wellFormed_start (document : Document) (limit : Nat) :
    (start document limit).history.WellFormed := by
  have hholds := Arena.holds_insertTree document.template Arena.wellFormed_empty
  refine ⟨hholds.wellFormed, ?_, ?_⟩
  · intro entry hentry
    obtain rfl : entry = _ := List.mem_singleton.mp hentry
    exact hholds.lt_size
  · change limit = 0 ∨ 0 + 1 + 0 ≤ limit
    omega

theorem trail_start (document : Document) (limit : Nat) :
    (start document limit).history.trail = ⟨[], ⟨document, History.initialLabel⟩, []⟩ := by
  have hholds := Arena.holds_insertTree document.template Arena.wellFormed_empty
  exact congrArg
    (fun template => Trail.mk [] ⟨⟨template, document.tokens⟩, History.initialLabel⟩ [])
    hholds.build_single

theorem document_start (document : Document) (limit : Nat) :
    (start document limit).document = document :=
  document_of_trail (trail_start document limit)

theorem wellFormed_step (h : session.history.WellFormed) (op : SessionOp) :
    (session.step op).2.history.WellFormed := by
  cases op with
  | undo => exact (History.moved_undo session.history).wellFormed h
  | redo => exact (History.moved_redo session.history).wellFormed h
  | beginBatch label => exact h.of_entries rfl rfl rfl
  | endBatch => exact h.of_entries rfl rfl rfl
  | edit edit => exact (edited_step h rfl).wellFormed h
  | editText text => exact (edited_step h rfl).wellFormed h
  | updateTokens tokens => exact (edited_step h rfl).wellFormed h

theorem wellFormed_after (h : session.history.WellFormed) (ops : List SessionOp) :
    (session.after ops).history.WellFormed := by
  induction ops generalizing session with
  | nil => exact h
  | cons op ops ih => exact ih (wellFormed_step h op)

theorem Reachable.wellFormed (h : session.Reachable) : session.history.WellFormed := by
  obtain ⟨document, limit, ops, rfl⟩ := h
  exact wellFormed_after (wellFormed_start document limit) ops

end Session

end DocTemplate

import DocTemplate.Edit.Replay
import DocTemplate.Proofs.Session.Run

/-!
# Replay

A replay makes its edits in a session, with or without a batch and under some limit.  Its outcome is
that of the edits one after another on a plain document, which knows nothing of either.
-/

namespace DocTemplate

/-! ## Edits of a plain document -/

namespace Edit

def foldDocument (document : Document) (edits : List Edit) : Except EditError Document :=
  edits.foldlM (fun document edit => edit.onDocument document) document

/-- The edits in front of an index are all made, and the document they lead to refuses the next. -/
def RefusedIn (document : Document) (edits : List Edit) (failure : ReplayError) : Prop :=
  ∃ edit before, edits[failure.index]? = some edit ∧
    foldDocument document (edits.take failure.index) = .ok before ∧
    edit.onDocument before = .error failure.error ∧ edit.label = failure.label

variable {document after : Document} {edit : Edit} {edits : List Edit}

theorem foldDocument_cons_of_ok (h : edit.onDocument document = .ok after) (edits : List Edit) :
    foldDocument document (edit :: edits) = foldDocument after edits := by
  rw [foldDocument, List.foldlM_cons, h]
  rfl

theorem foldDocument_cons_of_error {error : EditError}
    (h : edit.onDocument document = .error error) (edits : List Edit) :
    foldDocument document (edit :: edits) = .error error := by
  rw [foldDocument, List.foldlM_cons, h]
  rfl

private theorem not_refusedIn_nil (failure : ReplayError) : ¬ RefusedIn document [] failure := by
  rintro ⟨edit, before, hedit, -⟩
  simp at hedit

private theorem refusedIn_cons_of_ok (h : edit.onDocument document = .ok after)
    {failure : ReplayError} :
    RefusedIn document (edit :: edits) failure ↔
      ∃ index, failure.index = index + 1 ∧ RefusedIn after edits { failure with index } := by
  obtain ⟨index, label, error⟩ := failure
  constructor
  · rintro ⟨refused, before, hrefused, hbefore, herror, hlabel⟩
    cases index with
    | zero =>
        cases hrefused
        cases hbefore
        rw [h] at herror
        cases herror
    | succ index =>
        refine ⟨index, rfl, refused, before, hrefused, ?_, herror, hlabel⟩
        rwa [List.take_succ_cons, foldDocument_cons_of_ok h] at hbefore
  · rintro ⟨index, rfl, refused, before, hrefused, hbefore, herror, hlabel⟩
    refine ⟨refused, before, hrefused, ?_, herror, hlabel⟩
    rw [List.take_succ_cons, foldDocument_cons_of_ok h]
    exact hbefore

private theorem refusedIn_cons_of_error {error : EditError}
    (h : edit.onDocument document = .error error) {failure : ReplayError} :
    RefusedIn document (edit :: edits) failure ↔ failure = ⟨0, edit.label, error⟩ := by
  obtain ⟨index, label, reason⟩ := failure
  constructor
  · rintro ⟨refused, before, hrefused, hbefore, herror, hlabel⟩
    cases index with
    | zero =>
        cases hrefused
        cases hbefore
        cases hlabel
        cases h.symm.trans herror
        rfl
    | succ index =>
        rw [List.take_succ_cons, foldDocument_cons_of_error h] at hbefore
        cases hbefore
  · rintro heq
    cases heq
    exact ⟨edit, document, rfl, rfl, h, rfl⟩

end Edit

/-! ## Edits of a session -/

namespace Session

variable {session : Session} {index : Nat} {edits : List Edit}

theorem replayFrom_cons_of_ok {edit : Edit} {result : EditResult} {after : Session}
    (h : session.apply edit = (.ok result, after)) :
    session.replayFrom index (edit :: edits) = after.replayFrom (index + 1) edits := by
  rw [replayFrom, h]

theorem replayFrom_cons_of_error {edit : Edit} {error : EditError} {after : Session}
    (h : session.apply edit = (.error error, after)) :
    session.replayFrom index (edit :: edits) = .error ⟨index, edit.label, error⟩ := by
  rw [replayFrom, h]

private theorem replayFrom_ok_iff (hwell : session.history.WellFormed) {document : Document}
    {version : Nat} :
    (∃ after, session.replayFrom index edits = .ok after ∧ after.document = document ∧
        after.version = version) ↔
      Edit.foldDocument session.document edits = .ok document ∧
        version = session.version + edits.length := by
  induction edits generalizing session index with
  | nil =>
      constructor
      · rintro ⟨after, hafter, rfl, rfl⟩
        cases hafter
        exact ⟨rfl, rfl⟩
      · rintro ⟨hdocument, rfl⟩
        cases hdocument
        exact ⟨session, rfl, rfl, rfl⟩
  | cons edit edits ih =>
      cases hedit : edit.onDocument session.document with
      | error error =>
          rw [replayFrom_cons_of_error (apply_of_error hwell hedit),
            Edit.foldDocument_cons_of_error hedit]
          simp
      | ok next =>
          obtain ⟨after, happly, hrecords⟩ := apply_of_ok hwell hedit
          rw [replayFrom_cons_of_ok happly, ih hrecords.wellFormed, hrecords.document_eq,
            hrecords.version, Edit.foldDocument_cons_of_ok hedit, List.length_cons]
          refine and_congr_right fun _ => ?_
          omega

private theorem replayFrom_error_iff (hwell : session.history.WellFormed) {failure : ReplayError} :
    session.replayFrom index edits = .error failure ↔
      ∃ offset, failure.index = index + offset ∧
        Edit.RefusedIn session.document edits { failure with index := offset } := by
  induction edits generalizing session index with
  | nil =>
      constructor
      · intro h
        cases h
      · rintro ⟨offset, -, hrefused⟩
        exact absurd hrefused (Edit.not_refusedIn_nil _)
  | cons edit edits ih =>
      cases hedit : edit.onDocument session.document with
      | error error =>
          rw [replayFrom_cons_of_error (apply_of_error hwell hedit)]
          simp only [Edit.refusedIn_cons_of_error hedit]
          obtain ⟨place, label, reason⟩ := failure
          constructor
          · intro h
            cases h
            exact ⟨0, rfl, rfl⟩
          · rintro ⟨offset, rfl, heq⟩
            cases heq
            rfl
      | ok next =>
          obtain ⟨after, happly, hrecords⟩ := apply_of_ok hwell hedit
          rw [replayFrom_cons_of_ok happly, ih hrecords.wellFormed, hrecords.document_eq]
          simp only [Edit.refusedIn_cons_of_ok hedit]
          constructor
          · rintro ⟨offset, hindex, hrefused⟩
            exact ⟨offset + 1, by omega, offset, rfl, hrefused⟩
          · rintro ⟨_, hindex, offset, rfl, hrefused⟩
            exact ⟨offset, by omega, hrefused⟩

/-! ## Whole replays -/

section Replay

variable (document : Document) (edits : List Edit) (batch : Option String) (limit : Nat)

def opened : Session :=
  match batch with
  | some label => (start document limit).beginBatch label
  | none => start document limit

theorem replay_eq :
    replay document edits batch limit =
      ((opened document batch limit).replayFrom 0 edits).map fun after => after.endBatch.2 := by
  cases batch <;> rfl

theorem wellFormed_opened : (opened document batch limit).history.WellFormed := by
  have hstart := wellFormed_start document limit
  cases batch with
  | none => exact hstart
  | some label => exact hstart.of_entries rfl rfl rfl

theorem document_opened : (opened document batch limit).document = document := by
  cases batch with
  | none => exact document_start document limit
  | some label => exact document_start document limit

private theorem version_opened : (opened document batch limit).version = 0 := by
  cases batch <;> rfl

theorem replay_ok_iff {after : Document} {version : Nat} :
    (∃ session, replay document edits batch limit = .ok session ∧ session.document = after ∧
        session.version = version) ↔
      Edit.foldDocument document edits = .ok after ∧ version = edits.length := by
  have hopened := @replayFrom_ok_iff _ 0 edits (wellFormed_opened document batch limit) after
    version
  rw [document_opened, version_opened, Nat.zero_add] at hopened
  rw [← hopened, replay_eq]
  -- the end of the batch is seen neither in the document nor in the version
  cases (opened document batch limit).replayFrom 0 edits with
  | error failure => simp [Except.map]
  | ok session =>
      constructor
      · rintro ⟨_, hended, hdocument, hversion⟩
        cases hended
        exact ⟨session, rfl, hdocument, hversion⟩
      · rintro ⟨_, hsession, hdocument, hversion⟩
        cases hsession
        exact ⟨_, rfl, hdocument, hversion⟩

theorem replay_error_iff {failure : ReplayError} :
    replay document edits batch limit = .error failure ↔
      Edit.RefusedIn document edits failure := by
  have hopened := @replayFrom_error_iff _ 0 edits (wellFormed_opened document batch limit) failure
  have hindex : (∃ offset, failure.index = 0 + offset ∧
      Edit.RefusedIn document edits { failure with index := offset }) ↔
        Edit.RefusedIn document edits failure := by
    simp
  rw [document_opened, hindex] at hopened
  rw [← hopened, replay_eq]
  cases (opened document batch limit).replayFrom 0 edits <;> simp [Except.map]

/-- A replay gives the document that its edits lead to one after another, in as many versions as
there are edits, or else it stops at the first edit that is refused, told by its index, name and
error.  Neither a batch nor the limit of the history makes a difference. -/
theorem replay_is_the_fold :
    (∀ after version,
      (∃ session, replay document edits batch limit = .ok session ∧ session.document = after ∧
          session.version = version) ↔
        Edit.foldDocument document edits = .ok after ∧ version = edits.length) ∧
      (∀ failure, replay document edits batch limit = .error failure ↔
        Edit.RefusedIn document edits failure) ∧
      ∀ otherBatch otherLimit,
        (replay document edits otherBatch otherLimit).map Session.document =
          (replay document edits batch limit).map Session.document := by
  refine ⟨fun _ _ => replay_ok_iff document edits batch limit,
    fun _ => replay_error_iff document edits batch limit, fun otherBatch otherLimit => ?_⟩
  cases hreplay : replay document edits batch limit with
  | error failure =>
      have hrefused := (replay_error_iff document edits batch limit).mp hreplay
      rw [(replay_error_iff document edits otherBatch otherLimit).mpr hrefused]
  | ok session =>
      have hfold := (replay_ok_iff document edits batch limit).mp ⟨session, hreplay, rfl, rfl⟩
      obtain ⟨other, hother, hdocument, -⟩ :=
        (replay_ok_iff document edits otherBatch otherLimit).mpr hfold
      rw [hother, Except.map, Except.map, hdocument]

end Replay

end Session

end DocTemplate

import DocTemplate.Proofs.Session.Run

/-!
# Refused edits

An edit that is refused part of the way may have allocated nodes.  They are given up again, and the
session is then the one from before the edit: its arena, its entries, its batch and its version.
-/

namespace DocTemplate.Session

theorem eq_of_apply_error {session after : Session} {edit : Edit} {error : EditError}
    (h : session.apply edit = (.error error, after)) : after = session := by
  rw [apply] at h
  split at h
  · next heq =>
      obtain rfl := Edit.eq_of_applyTo_error heq
      cases h
      rfl
  · cases h

theorem tryApply_cases (session : Session) (edit : Edit) :
    (∃ error, session.apply edit = (.error error, session) ∧
        session.tryApply edit = (false, session)) ∨
      ∃ result after, session.apply edit = (.ok result, after) ∧
        session.tryApply edit = (true, after) := by
  rw [tryApply_eq]
  cases happly : session.apply edit with
  | mk result after =>
      cases result with
      | error error =>
          obtain rfl := eq_of_apply_error happly
          exact .inl ⟨error, rfl, rfl⟩
      | ok result => exact .inr ⟨result, after, rfl, rfl⟩

theorem applyText_cases (session : Session) (text : TextEdit) :
    (text.edit? = none ∧ session.applyText text = (false, session)) ∨
      (∃ edit error, text.edit? = some edit ∧ session.apply edit = (.error error, session) ∧
        session.applyText text = (false, session)) ∨
      ∃ edit result after, text.edit? = some edit ∧ session.apply edit = (.ok result, after) ∧
        session.applyText text = (true, after) := by
  rw [applyText_eq]
  cases hedit : text.edit? with
  | none => exact .inl ⟨rfl, rfl⟩
  | some edit =>
      rcases tryApply_cases session edit with
        ⟨error, happly, htry⟩ | ⟨result, after, happly, htry⟩
      · exact .inr (.inl ⟨edit, error, rfl, happly, htry⟩)
      · exact .inr (.inr ⟨edit, result, after, rfl, happly, htry⟩)

theorem applyText_eq_false_iff (session : Session) (text : TextEdit) :
    (session.applyText text).1 = false ↔
      (∃ path ∈ text.paths, ∃ fault, ElementPath.parse path = .error fault) ∨
        ∃ edit error, text.edit? = some edit ∧ (session.apply edit).1 = .error error := by
  rw [← TextEdit.edit?_eq_none_iff]
  rcases applyText_cases session text with
    ⟨hedit, htext⟩ | ⟨_, _, hedit, happly, htext⟩ | ⟨_, _, _, hedit, happly, htext⟩
  · simp [hedit, htext]
  · simp [hedit, htext, happly]
  · simp [hedit, htext, happly]

private theorem tryApply_of_false {session : Session} {edit : Edit}
    (h : (session.tryApply edit).1 = false) : (session.tryApply edit).2 = session := by
  rcases tryApply_cases session edit with ⟨_, -, htry⟩ | ⟨_, _, -, htry⟩
  · rw [htry]
  · simp [htry] at h

theorem applyText_of_false {session : Session} {text : TextEdit}
    (h : (session.applyText text).1 = false) : (session.applyText text).2 = session := by
  rcases applyText_cases session text with ⟨-, htext⟩ | ⟨_, _, -, -, htext⟩ | ⟨_, _, _, -, -, htext⟩
  · rw [htext]
  · rw [htext]
  · simp [htext] at h

private theorem step_of_refused {session : Session} {op : SessionOp} (hop : op.isEdit = true)
    (h : (session.step op).1.succeeded = false) : (session.step op).2 = session := by
  cases op with
  | edit edit =>
      rw [step] at h ⊢
      cases happly : session.apply edit with
      | mk result after =>
          cases result with
          | error error => exact eq_of_apply_error happly
          | ok result => simp [happly, Reply.succeeded] at h
  | editText text => exact applyText_of_false h
  | updateTokens tokens => exact tryApply_of_false h
  | undo => cases hop
  | redo => cases hop
  | beginBatch label => cases hop
  | endBatch => cases hop

theorem after_of_refused {session : Session} {ops : List SessionOp}
    (hedits : ∀ op ∈ ops, op.isEdit = true)
    (h : ∀ visit ∈ session.trace ops, visit.1.succeeded = false) : session.after ops = session := by
  induction ops with
  | nil => rfl
  | cons op ops ih =>
      obtain ⟨hop, hrest⟩ := List.forall_mem_cons.mp hedits
      obtain ⟨hrefused, hothers⟩ := List.forall_mem_cons.mp h
      have hstep := step_of_refused hop hrefused
      rw [hstep] at hothers
      rw [after, Run.last, hstep]
      exact ih hrest hothers

/-- An edit that fails leaves the whole session as it was; the edits at paths given as text fail
exactly where a path cannot be read or the edit fails, and otherwise do what the edit does. -/
theorem failed_edits_are_atomic (session : Session) :
    (∀ edit error, (session.apply edit).1 = .error error → (session.apply edit).2 = session) ∧
      ∀ text : TextEdit,
        ((session.applyText text).1 = false ↔
          (∃ path ∈ text.paths, ∃ fault, ElementPath.parse path = .error fault) ∨
            ∃ edit error, text.edit? = some edit ∧ (session.apply edit).1 = .error error) ∧
        ((session.applyText text).1 = false → (session.applyText text).2 = session) ∧
        ((session.applyText text).1 = true →
          ∃ edit result, text.edit? = some edit ∧
            session.apply edit = (.ok result, (session.applyText text).2)) := by
  constructor
  · intro edit error herror
    exact eq_of_apply_error (Prod.ext herror rfl)
  · intro text
    refine ⟨applyText_eq_false_iff session text, applyText_of_false, ?_⟩
    intro hdone
    rcases applyText_cases session text with
      ⟨-, htext⟩ | ⟨_, _, -, -, htext⟩ | ⟨edit, result, after, hedit, happly, htext⟩
    · simp [htext] at hdone
    · simp [htext] at hdone
    · exact ⟨edit, result, hedit, by rw [happly, htext]⟩

theorem failed_edits_are_atomic_missing_element :
    let session := start ⟨.blank, .empty⟩ 0
    let text : TextEdit := .remove "children[3]"
    (session.apply (.removeElement [3])).2 = session ∧
      (session.applyText text).1 = false ∧ (session.applyText text).2 = session := by
  intro session text
  obtain ⟨hedits, htexts⟩ := failed_edits_are_atomic session
  have happly : (session.apply (.removeElement [3])).1 = .error (.notFound [3]) := rfl
  have hrefused : (session.applyText text).1 = false :=
    (htexts text).1.mpr (.inr ⟨.removeElement [3], .notFound [3], rfl, happly⟩)
  exact ⟨hedits _ _ happly, hrefused, (htexts text).2.1 hrefused⟩

end DocTemplate.Session

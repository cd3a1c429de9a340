import DocTemplate.Edit.Preview
import DocTemplate.Proofs.Session.Atomicity

/-!
# Previews are never stale

The operations of a preview as data, and runs of them.  An operation renders anew, or drops the
render at hand, or is refused and leaves alone everything that a render shows; so the render at hand
is always that of the present state.
-/

namespace DocTemplate

/-! ## Operations -/

inductive PreviewOp where
  | edit (edit : Edit)
  | undo
  | redo
  | setView (view : View)
  | fullRender
  | clear

namespace PreviewOp

def sessionOp? : PreviewOp → Option SessionOp
  | .edit change => some (.edit change)
  | .undo => some .undo
  | .redo => some .redo
  | _ => none

def viewAfter (view : View) : PreviewOp → View
  | .setView next => next
  | _ => view

end PreviewOp

namespace Session

private theorem document_of_undo_refused {session : Session} (h : session.undo.1 = false) :
    session.undo.2.document = session.document := by
  obtain ⟨⟨arena, past, current, future, limit, batch, compactAt⟩, version⟩ := session
  cases past with
  | nil => rfl
  | cons entry past => cases h

private theorem document_of_redo_refused {session : Session} (h : session.redo.1 = false) :
    session.redo.2.document = session.document := by
  obtain ⟨⟨arena, past, current, future, limit, batch, compactAt⟩, version⟩ := session
  cases future with
  | nil => rfl
  | cons entry future => cases h

end Session

namespace Preview

/-- The render that an operation answers with; none where it is refused or only clears. -/
def step (preview : Preview) : PreviewOp → Option PreviewRender × Preview
  | .edit change => ((preview.apply change).1.toOption, (preview.apply change).2)
  | .undo => preview.undo
  | .redo => preview.redo
  | .setView view => (some (preview.setView view).1, (preview.setView view).2)
  | .fullRender => (some preview.fullRender.1, preview.fullRender.2)
  | .clear => (none, preview.clear)

def after : Preview → List PreviewOp → Preview
  | preview, [] => preview
  | preview, op :: ops => (preview.step op).2.after ops

/-! ## What a step can do -/

structure Untouched (preview kept : Preview) : Prop where
  document : kept.session.document = preview.session.document
  version : kept.session.version = preview.session.version
  view : kept.view = preview.view
  options : kept.options = preview.options
  lastRender : kept.lastRender = preview.lastRender

variable {preview : Preview}

private theorem currentRender_eq (preview : Preview) :
    preview.currentRender =
      ⟨preview.session.version, .ofTemplate preview.view preview.session.document.tokens
        preview.options preview.session.document.template⟩ := rfl

private theorem Untouched.currentRender {kept : Preview} (h : preview.Untouched kept) :
    kept.currentRender = preview.currentRender := by
  rw [currentRender_eq, currentRender_eq, h.document, h.version, h.view, h.options]

private theorem apply_cases (preview : Preview) (change : Edit) :
    (∃ error, preview.apply change = (.error error, preview)) ∨
      ∃ moved : Preview, preview.apply change = (.ok moved.fullRender.1, moved.fullRender.2) := by
  cases happly : preview.session.apply change with
  | mk result session =>
      cases result with
      | error error =>
          obtain rfl := Session.eq_of_apply_error happly
          exact .inl ⟨error, by rw [apply, happly]⟩
      | ok result => exact .inr ⟨{ preview with session }, by rw [apply, happly]⟩

private theorem afterStep_cases (preview : Preview) {step : Bool × Session}
    (hdocument : step.1 = false → step.2.document = preview.session.document)
    (hversion : step.2.version = preview.session.version) :
    (∃ kept, preview.afterStep step = (none, kept) ∧ preview.Untouched kept) ∨
      ∃ moved : Preview,
        preview.afterStep step = (some moved.fullRender.1, moved.fullRender.2) := by
  cases hmade : step.1 with
  | false =>
      refine .inl ⟨{ preview with session := step.2 }, ?_, ?_⟩
      · simp [afterStep, hmade]
      · exact ⟨hdocument hmade, hversion, rfl, rfl, rfl⟩
  | true =>
      refine .inr ⟨{ preview with session := step.2 }, ?_⟩
      simp [afterStep, hmade]

theorem step_cases (preview : Preview) (op : PreviewOp) :
    (∃ kept, preview.step op = (none, kept) ∧ preview.Untouched kept) ∨
      (∃ moved : Preview, preview.step op = (some moved.fullRender.1, moved.fullRender.2)) ∨
      op = .clear ∧ preview.step op = (none, preview.clear) := by
  cases op with
  | edit change =>
      rcases apply_cases preview change with ⟨error, happly⟩ | ⟨moved, happly⟩
      · exact .inl ⟨preview, by rw [step, happly]; rfl, ⟨rfl, rfl, rfl, rfl, rfl⟩⟩
      · exact .inr (.inl ⟨moved, by rw [step, happly]; rfl⟩)
  | undo =>
      rcases afterStep_cases preview Session.document_of_undo_refused rfl with hkept | hmoved
      · exact .inl hkept
      · exact .inr (.inl hmoved)
  | redo =>
      rcases afterStep_cases preview Session.document_of_redo_refused rfl with hkept | hmoved
      · exact .inl hkept
      · exact .inr (.inl hmoved)
  | setView view => exact .inr (.inl ⟨{ preview with view }, rfl⟩)
  | fullRender => exact .inr (.inl ⟨preview, rfl⟩)
  | clear => exact .inr (.inr ⟨rfl, rfl⟩)

/-! ## Freshness -/

def Fresh (preview : Preview) : Prop :=
  ∀ render, preview.lastRender = some render → render = preview.currentRender

private theorem fresh_fullRender (preview : Preview) : preview.fullRender.2.Fresh := by
  intro render hrender
  exact (Option.some.inj hrender).symm

theorem fresh_start (session : Session) (view : View) (options : RenderOptions) :
    (start session view options).Fresh := by
  intro render hrender
  cases hrender

private theorem fresh_step (h : preview.Fresh) (op : PreviewOp) : (preview.step op).2.Fresh := by
  rcases step_cases preview op with ⟨kept, hstep, hkept⟩ | ⟨moved, hstep⟩ | ⟨-, hstep⟩
  · rw [hstep]
    intro render hrender
    rw [hkept.currentRender]
    exact h render (hkept.lastRender ▸ hrender)
  · rw [hstep]
    exact fresh_fullRender moved
  · rw [hstep]
    intro render hrender
    cases hrender

theorem fresh_after (h : preview.Fresh) (ops : List PreviewOp) : (preview.after ops).Fresh := by
  induction ops generalizing preview with
  | nil => exact h
  | cons op ops ih => exact ih (fresh_step h op)

/-! ## The present state -/

private theorem session_apply (preview : Preview) (change : Edit) :
    (preview.apply change).2.session = (preview.session.apply change).2 := by
  rw [apply]
  cases preview.session.apply change with
  | mk result session => cases result <;> rfl

private theorem settings_apply (preview : Preview) (change : Edit) :
    (preview.apply change).2.view = preview.view ∧
      (preview.apply change).2.options = preview.options := by
  rw [apply]
  cases preview.session.apply change with
  | mk result session => cases result <;> exact ⟨rfl, rfl⟩

private theorem session_afterStep (preview : Preview) (step : Bool × Session) :
    (preview.afterStep step).2.session = step.2 := by
  rw [afterStep]
  split <;> rfl

private theorem settings_afterStep (preview : Preview) (step : Bool × Session) :
    (preview.afterStep step).2.view = preview.view ∧
      (preview.afterStep step).2.options = preview.options := by
  rw [afterStep]
  split <;> exact ⟨rfl, rfl⟩

private theorem session_step (preview : Preview) (op : PreviewOp) :
    (preview.step op).2.session = preview.session.after op.sessionOp?.toList := by
  cases op with
  | edit change => exact session_apply preview change
  | undo => exact session_afterStep preview preview.session.undo
  | redo => exact session_afterStep preview preview.session.redo
  | setView view => rfl
  | fullRender => rfl
  | clear => rfl

private theorem settings_step (preview : Preview) (op : PreviewOp) :
    (preview.step op).2.view = op.viewAfter preview.view ∧
      (preview.step op).2.options = preview.options := by
  cases op with
  | edit change => exact settings_apply preview change
  | undo => exact settings_afterStep preview preview.session.undo
  | redo => exact settings_afterStep preview preview.session.redo
  | setView view => exact ⟨rfl, rfl⟩
  | fullRender => exact ⟨rfl, rfl⟩
  | clear => exact ⟨rfl, rfl⟩

theorem session_after (preview : Preview) (ops : List PreviewOp) :
    (preview.after ops).session = preview.session.after (ops.filterMap PreviewOp.sessionOp?) := by
  induction ops generalizing preview with
  | nil => rfl
  | cons op ops ih =>
      rw [after, ih, session_step, List.filterMap_cons]
      cases op.sessionOp? <;> rfl

theorem settings_after (preview : Preview) (ops : List PreviewOp) :
    (preview.after ops).view = ops.foldl PreviewOp.viewAfter preview.view ∧
      (preview.after ops).options = preview.options := by
  induction ops generalizing preview with
  | nil => exact ⟨rfl, rfl⟩
  | cons op ops ih =>
      obtain ⟨hview, hoptions⟩ := settings_step preview op
      rw [after, List.foldl_cons, ← hview, ← hoptions]
      exact ih _

/-- After any operations the preview holds the session that they lead to and the view that was given
last; the render at hand is what a fresh renderer makes of exactly these.  An operation answers with
the render that is then at hand, and one that is refused keeps the render from before. -/
theorem last_render_is_current (session : Session) (view : View) (options : RenderOptions)
    (ops : List PreviewOp) :
    let preview := (start session view options).after ops
    let renderer := Renderer.start preview.view preview.session.tokens options
    preview.session = session.after (ops.filterMap PreviewOp.sessionOp?) ∧
      preview.view = ops.foldl PreviewOp.viewAfter view ∧
      (∀ render, preview.lastRender = some render →
        render.version = preview.session.version ∧
          render.report.rendered = (renderer.render preview.session.template none).1 ∧
          render.report.diagnostics =
            (renderer.render preview.session.template none).2.takeDiagnostics.1) ∧
      (∀ op render, (preview.step op).1 = some render →
        (preview.step op).2.lastRender = some render) ∧
      (∀ op, (preview.step op).1 = none → op = .clear ∨
        (preview.step op).2.lastRender = preview.lastRender) := by
  intro preview renderer
  obtain ⟨hview, hoptions⟩ := settings_after (start session view options) ops
  refine ⟨session_after (start session view options) ops, hview, ?_, ?_, ?_⟩
  · intro render hrender
    have hfresh : preview.Fresh := fresh_after (fresh_start session view options) ops
    obtain rfl := hfresh render hrender
    have hsetting : renderer = Renderer.start preview.view preview.session.tokens preview.options :=
      congrArg (Renderer.start _ _) hoptions.symm
    rw [hsetting]
    exact ⟨rfl, rfl, rfl⟩
  · intro op render hanswer
    rcases step_cases preview op with ⟨kept, hstep, -⟩ | ⟨moved, hstep⟩ | ⟨-, hstep⟩
    · simp [hstep] at hanswer
    · rw [hstep] at hanswer ⊢
      exact hanswer
    · simp [hstep] at hanswer
  · intro op hanswer
    rcases step_cases preview op with ⟨kept, hstep, hkept⟩ | ⟨moved, hstep⟩ | ⟨hclear, -⟩
    · rw [hstep]
      exact .inr hkept.lastRender
    · simp [hstep] at hanswer
    · exact .inl hclear

theorem last_render_is_current_refused_undo :
    let session := Session.start ⟨.blank, .empty⟩ 0
    let preview := (start session .empty .default).after
      [.edit (.addElement [] (.text "Total")), .undo, .undo]
    ∃ render, preview.lastRender = some render ∧ render.version = preview.session.version ∧
      (preview.step .undo).1 = none ∧ (preview.step .undo).2.lastRender = some render ∧
      ∃ shown, (preview.step (.setView .empty)).1 = some shown ∧
        (preview.step (.setView .empty)).2.lastRender = some shown := by
  intro session preview
  obtain ⟨-, -, hcurrent, hanswered, hrefused⟩ := last_render_is_current session .empty .default
    [.edit (.addElement [] (.text "Total")), .undo, .undo]
  have hrender : preview.lastRender = some preview.currentRender := rfl
  have hundo : (preview.step .undo).1 = none := rfl
  have hshown : (preview.step (.setView .empty)).1 = some (preview.setView .empty).1 := rfl
  have hkept : (preview.step .undo).2.lastRender = preview.lastRender :=
    (hrefused .undo hundo).resolve_left nofun
  have hanswer := hanswered (.setView .empty) _ hshown
  exact ⟨_, hrender, (hcurrent _ hrender).1, hundo, hkept.trans hrender, _, hshown, hanswer⟩

end Preview

end DocTemplate

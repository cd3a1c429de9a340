import DocTemplate.Proofs.Render.Picture

/-!
# A renderer that is used again

Calls of one renderer, one after another.  What earlier calls leave behind is a memory of paths that
stays faithful and the diagnostics that nobody has taken yet, so every call gives what it would give
as the first one.
-/

namespace DocTemplate

/-! ## Questions to a memory of paths -/

inductive PathQuery where
  | value (source : String) (view : View) (scope : Option Json)
  | outcome (binding : DataBinding) (view : View) (scope : Option Json)
  | text (binding : DataBinding) (view : View) (scope : Option Json)

inductive PathAnswer where
  | value (found : Option Json)
  | outcome (result : Except ResolveError (Option String))
  | text (shown : String)

namespace PathQuery

/-- The answer of a memory that may have read the path before. -/
def ask (pattern : String) : PathQuery → StateM PathMemory PathAnswer
  | .value source view scope => do return .value (← PathMemory.lookup? source view scope)
  | .outcome binding view scope => do return .outcome (← binding.tryResolve pattern view scope)
  | .text binding view scope => do return .text (← binding.resolve pattern view scope)

def answer (pattern : String) : PathQuery → PathAnswer
  | .value source view scope => .value (view.valueAt? scope source)
  | .outcome binding view scope => .outcome (binding.outcome pattern view scope)
  | .text binding view scope => .text (binding.textIn pattern view scope)

theorem answers_ask (pattern : String) (query : PathQuery) :
    PathMemory.Answers (query.ask pattern) (query.answer pattern) := by
  cases query with
  | value source view scope =>
      exact (PathMemory.answers_lookup? source view scope).bind (PathMemory.answers_pure _)
  | outcome binding view scope =>
      exact (binding.answers_tryResolve pattern view scope).bind (PathMemory.answers_pure _)
  | text binding view scope =>
      exact (binding.answers_resolve pattern view scope).bind (PathMemory.answers_pure _)

end PathQuery

theorem PathMemory.answers_mapM {α β : Type} {action : α → StateM PathMemory β} {value : α → β}
    (h : ∀ item, Answers (action item) (value item)) (items : List α) :
    Answers (items.mapM action) (items.map value) := by
  induction items with
  | nil => exact answers_pure []
  | cons item items ih =>
      rw [List.mapM_cons, List.map_cons]
      exact (h item).bind (ih.bind (answers_pure _))

/-! ## Calls of a renderer -/

inductive RenderCall where
  | render (element : Element) (scope : Option Json)
  | takeDiagnostics

/-- The renders behind the last taking of diagnostics; `earlier` stands in front of the calls. -/
def RenderCall.rendersSinceTake (earlier : List (Element × Option Json)) :
    List RenderCall → List (Element × Option Json)
  | [] => earlier
  | .render element scope :: calls => rendersSinceTake (earlier ++ [(element, scope)]) calls
  | .takeDiagnostics :: calls => rendersSinceTake [] calls

namespace Renderer

def next (renderer : Renderer) : RenderCall → Renderer
  | .render element scope => (renderer.render element scope).2
  | .takeDiagnostics => renderer.takeDiagnostics.2

def after : Renderer → List RenderCall → Renderer
  | renderer, [] => renderer
  | renderer, call :: calls => (renderer.next call).after calls

/-! ## What one call gives and leaves -/

variable {renderer : Renderer}

theorem fst_render (h : renderer.memory.paths.Faithful) (element : Element)
    (scope : Option Json) :
    (renderer.render element scope).1 = renderer.setting.picture scope element :=
  (RenderSetting.gives_renderElement element .root scope).result _ ⟨rfl, h⟩

def reported (setting : RenderSetting) (render : Element × Option Json) : List Diagnostic :=
  setting.kept (RenderSetting.reportOf setting.view (render.1.instances setting.view render.2))

theorem diagnostics_render (h : renderer.memory.paths.Faithful) (element : Element)
    (scope : Option Json) :
    (renderer.render element scope).2.memory.diagnostics =
      renderer.memory.diagnostics ++ reported renderer.setting (element, scope) :=
  (RenderSetting.gives_renderElement element .root scope).diagnostics _ ⟨rfl, h⟩

theorem setting_next (renderer : Renderer) (call : RenderCall) :
    (renderer.next call).setting = renderer.setting := by
  cases call <;> rfl

theorem standsAt_next (h : renderer.memory.StandsAt .root) (call : RenderCall) :
    (renderer.next call).memory.StandsAt .root := by
  cases call with
  | render element scope =>
      exact (RenderSetting.gives_renderElement element .root scope).stands _ ⟨rfl, h.faithful⟩
  | takeDiagnostics => exact ⟨h.path, h.faithful⟩

/-! ## What a run of calls leaves -/

theorem setting_after (renderer : Renderer) (calls : List RenderCall) :
    (renderer.after calls).setting = renderer.setting := by
  induction calls generalizing renderer with
  | nil => rfl
  | cons call calls ih => rw [after, ih, setting_next]

theorem standsAt_after (h : renderer.memory.StandsAt .root) (calls : List RenderCall) :
    (renderer.after calls).memory.StandsAt .root := by
  induction calls generalizing renderer with
  | nil => exact h
  | cons call calls ih => exact ih (standsAt_next h call)

/-- Whatever has been entered in earlier renders has been left again. -/
theorem path_after (view : View) (tokens : DesignTokens) (options : RenderOptions)
    (calls : List RenderCall) : ((start view tokens options).after calls).memory.path = .root :=
  (standsAt_after RenderMemory.standsAt_empty calls).path

theorem fst_render_after (view : View) (tokens : DesignTokens) (options : RenderOptions)
    (calls : List RenderCall) (element : Element) (scope : Option Json) :
    (((start view tokens options).after calls).render element scope).1 =
      RenderSetting.picture ⟨view, tokens, options⟩ scope element := by
  have hstands : ((start view tokens options).after calls).memory.StandsAt .root :=
    standsAt_after RenderMemory.standsAt_empty calls
  have hsetting : ((start view tokens options).after calls).setting = ⟨view, tokens, options⟩ :=
    setting_after (start view tokens options) calls
  rw [fst_render hstands.faithful, hsetting]

theorem diagnostics_after (h : renderer.memory.StandsAt .root)
    {earlier : List (Element × Option Json)}
    (hpending : renderer.memory.diagnostics = earlier.flatMap (reported renderer.setting))
    (calls : List RenderCall) :
    (renderer.after calls).memory.diagnostics =
      (RenderCall.rendersSinceTake earlier calls).flatMap (reported renderer.setting) := by
  induction calls generalizing renderer earlier with
  | nil => exact hpending
  | cons call calls ih =>
      have hstands := standsAt_next h call
      rw [after, ← setting_next renderer call]
      cases call with
      | render element scope =>
          refine ih hstands ?_
          rw [setting_next, next, diagnostics_render h.faithful, hpending, List.flatMap_append,
            List.flatMap_singleton]
      | takeDiagnostics => exact ih hstands rfl

/-- After any calls a renderer renders as a fresh one, and the diagnostics it holds are those of
fresh renderers for the renders since diagnostics were last taken, in the order of the calls.  The
paths it remembers answer every question as no memory would, one question after another. -/
theorem reused_renders_as_fresh (view : View) (tokens : DesignTokens) (options : RenderOptions)
    (calls : List RenderCall) :
    let fresh := start view tokens options
    let used := fresh.after calls
    (∀ element scope, (used.render element scope).1 = (fresh.render element scope).1) ∧
      used.takeDiagnostics.1 = (RenderCall.rendersSinceTake [] calls).flatMap
        (fun call => (fresh.render call.1 call.2).2.takeDiagnostics.1) ∧
      ∀ (pattern : String) (queries : List PathQuery),
        ((queries.mapM (PathQuery.ask pattern)).run used.memory.paths).1 =
          queries.map fun query => ((query.ask pattern).run ∅).1 := by
  intro fresh used
  have hfresh : fresh.memory.StandsAt .root := RenderMemory.standsAt_empty
  have hused : used.memory.StandsAt .root := standsAt_after hfresh calls
  have hsetting : used.setting = fresh.setting := setting_after fresh calls
  refine ⟨?_, ?_, ?_⟩
  · intro element scope
    rw [fst_render hused.faithful, fst_render hfresh.faithful, hsetting]
  · have halone (call : Element × Option Json) :
        (fresh.render call.1 call.2).2.takeDiagnostics.1 = reported fresh.setting call :=
      diagnostics_render hfresh.faithful call.1 call.2
    simp only [halone]
    exact diagnostics_after hfresh rfl calls
  · intro pattern queries
    have hanswers := PathMemory.answers_mapM (PathQuery.answers_ask pattern) queries
    rw [hanswers.result used.memory.paths hused.faithful]
    refine List.map_congr_left fun query _ => ?_
    exact ((query.answers_ask pattern).result ∅ PathMemory.faithful_empty).symm

end Renderer

end DocTemplate

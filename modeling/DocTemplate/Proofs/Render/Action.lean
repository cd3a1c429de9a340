import DocTemplate.Proofs.Render.PathMemory
import DocTemplate.Render.Renderer

/-!
# Actions of a renderer

An action gives a value and reports causes for diagnostics, both fixed beforehand: what earlier
renders left in the memory has no influence on them.  It ends at the path where it began, whatever
it has entered in between.
-/

namespace DocTemplate

namespace DiagnosticCause

def diagnosticsAt (path : ElementPath) (causes : List DiagnosticCause) : List Diagnostic :=
  causes.map (⟨path, ·⟩)

@[simp] theorem diagnosticsAt_nil (path : ElementPath) : diagnosticsAt path [] = [] := rfl

theorem diagnosticsAt_append (path : ElementPath) (first second : List DiagnosticCause) :
    diagnosticsAt path (first ++ second) =
      diagnosticsAt path first ++ diagnosticsAt path second :=
  List.map_append

theorem diagnosticsAt_flatMap {α : Type} (path : ElementPath) (items : List α)
    (causes : α → List DiagnosticCause) :
    diagnosticsAt path (items.flatMap causes) =
      items.flatMap fun item => diagnosticsAt path (causes item) :=
  List.map_flatMap ..

end DiagnosticCause

/-- At the path, and with a faithful memory of the paths of data. -/
structure RenderMemory.StandsAt (memory : RenderMemory) (path : ElementPath) : Prop where
  path : memory.path = path
  faithful : memory.paths.Faithful

theorem RenderMemory.standsAt_empty : RenderMemory.empty.StandsAt .root :=
  ⟨rfl, PathMemory.faithful_empty⟩

namespace RenderSetting

variable {α β : Type} {setting : RenderSetting} {path : ElementPath}

def kept (setting : RenderSetting) (diagnostics : List Diagnostic) : List Diagnostic :=
  if setting.options.collectDiagnostics then diagnostics else []

@[simp] theorem kept_nil (setting : RenderSetting) : setting.kept [] = [] := by
  simp [kept]

private theorem kept_append (setting : RenderSetting) (first second : List Diagnostic) :
    setting.kept (first ++ second) = setting.kept first ++ setting.kept second := by
  rw [kept, kept, kept]
  split <;> rfl

/-- From a memory that stands at the path the action gives `value`, leaves a memory that stands
there again, and adds `reported` to the diagnostics. -/
structure Gives (setting : RenderSetting) (path : ElementPath) (action : RenderM α) (value : α)
    (reported : List Diagnostic) : Prop where
  result : ∀ memory : RenderMemory, memory.StandsAt path → (action.run memory).1 = value
  stands : ∀ memory : RenderMemory, memory.StandsAt path → (action.run memory).2.StandsAt path
  diagnostics : ∀ memory : RenderMemory, memory.StandsAt path →
    (action.run memory).2.diagnostics = memory.diagnostics ++ setting.kept reported

theorem gives_pure (value : α) : setting.Gives path (pure value) value [] where
  result _ _ := rfl
  stands _ h := h
  diagnostics memory _ := by
    rw [kept_nil, List.append_nil]
    rfl

theorem Gives.bind {action : RenderM α} {next : α → RenderM β} {value : α} {result : β}
    {first second : List Diagnostic} (h : setting.Gives path action value first)
    (hnext : setting.Gives path (next value) result second) :
    setting.Gives path (action >>= next) result (first ++ second) := by
  have hrun (memory : RenderMemory) (hmemory : memory.StandsAt path) :
      (action >>= next).run memory = (next value).run (action.run memory).2 := by
    rw [← h.result memory hmemory]
    rfl
  constructor
  · intro memory hmemory
    rw [hrun memory hmemory]
    exact hnext.result _ (h.stands memory hmemory)
  · intro memory hmemory
    rw [hrun memory hmemory]
    exact hnext.stands _ (h.stands memory hmemory)
  · intro memory hmemory
    rw [hrun memory hmemory, hnext.diagnostics _ (h.stands memory hmemory),
      h.diagnostics memory hmemory, kept_append, List.append_assoc]

theorem Gives.map {action : RenderM α} {value : α} {reported : List Diagnostic}
    (h : setting.Gives path action value reported) (change : α → β) :
    setting.Gives path (action >>= fun value => pure (change value)) (change value) reported := by
  have hbind : setting.Gives path (action >>= fun value => pure (change value)) (change value)
      (reported ++ []) := h.bind (gives_pure (change value))
  rwa [List.append_nil] at hbind

theorem gives_mapM {items : List α} {action : α → RenderM β} {value : α → β}
    {reported : α → List Diagnostic}
    (h : ∀ item ∈ items, setting.Gives path (action item) (value item) (reported item)) :
    setting.Gives path (items.mapM action) (items.map value) (items.flatMap reported) := by
  induction items with
  | nil => exact gives_pure []
  | cons item items ih =>
      obtain ⟨hitem, hitems⟩ := List.forall_mem_cons.mp h
      rw [List.mapM_cons, List.map_cons, List.flatMap_cons]
      exact hitem.bind ((ih hitems).map _)

/-! ## Single actions -/

theorem gives_diagnose (path : ElementPath) (cause : DiagnosticCause) :
    setting.Gives path (setting.diagnose cause) ()
      (DiagnosticCause.diagnosticsAt path [cause]) := by
  cases hcollect : setting.options.collectDiagnostics with
  | true =>
      have haction : setting.diagnose cause = modify fun memory =>
          { memory with diagnostics := memory.diagnostics ++ [⟨memory.path, cause⟩] } := by
        rw [diagnose, if_pos hcollect]
      rw [haction]
      refine ⟨fun _ _ => rfl, fun _ hmemory => ⟨hmemory.path, hmemory.faithful⟩, ?_⟩
      intro memory hmemory
      rw [kept, if_pos hcollect, ← hmemory.path]
      rfl
  | false =>
      have hignored : ¬ setting.options.collectDiagnostics = true := by simp [hcollect]
      have haction : setting.diagnose cause = pure () := by
        rw [diagnose, if_neg hignored]
      rw [haction]
      refine ⟨fun _ _ => rfl, fun _ hmemory => hmemory, fun memory _ => ?_⟩
      rw [kept, if_neg hignored, List.append_nil]
      rfl

theorem gives_withPaths {action : StateM PathMemory α} {value : α}
    (h : PathMemory.Answers action value) : setting.Gives path (withPaths action) value [] where
  result memory hmemory := h.result memory.paths hmemory.faithful
  stands memory hmemory := ⟨hmemory.path, h.faithful memory.paths hmemory.faithful⟩
  diagnostics memory _ := by
    rw [kept_nil, List.append_nil]
    rfl

theorem gives_inChild {action : RenderM α} {value : α} {reported : List Diagnostic} {index : Nat}
    (h : setting.Gives (path.child index) action value reported) :
    setting.Gives path (inChild index action) value reported := by
  have henter {memory : RenderMemory} (hmemory : memory.StandsAt path) :
      RenderMemory.StandsAt { memory with path := memory.path.child index } (path.child index) :=
    ⟨congrArg (ElementPath.child · index) hmemory.path, hmemory.faithful⟩
  constructor
  · exact fun memory hmemory => h.result _ (henter hmemory)
  · intro memory hmemory
    have hinside := h.stands _ (henter hmemory)
    refine ⟨?_, hinside.faithful⟩
    exact (congrArg List.dropLast hinside.path).trans List.dropLast_concat
  · exact fun memory hmemory => h.diagnostics _ (henter hmemory)

end RenderSetting

end DocTemplate

import DocTemplate.Proofs.Check.Findings
import DocTemplate.Proofs.Render.Picture

/-!
# Predicted diagnostics

A validator goes through a template once and without a view, a render meets an element as often as
its repeaters have items.  Whatever a render reports of an element, a validator has found there.
-/

namespace DocTemplate

/-- A finding foretells a diagnostic when both have the same unknown element, the same error in a
condition or the same unknown formatter for their cause. -/
inductive DiagnosticCause.PredictedBy : DiagnosticCause → FindingCause → Prop where
  | unknownElement (name : String) : PredictedBy (.unknownTag name) (.unknownElement name)
  | neverShown (error : TestError) : PredictedBy (.malformedCondition error) (.neverShown error)
  | invalidOperand (error : TestError) :
      PredictedBy (.malformedCondition error) (.invalidOperand error)
  | unknownFormatter (name source : String) :
      PredictedBy (.unknownFormatter name) (.unknownFormatter name source)

namespace Check

variable {cause : DiagnosticCause} {view : View} {scope : Option Json} {path : ElementPath}

/-! ## Parts of an element -/

private theorem predicted_of_mem_condition {condition : Condition} (h : cause ∈ condition.causes) :
    ∃ found ∈ condition.findings, cause.PredictedBy found := by
  rw [Condition.causes] at h
  cases hparse : Test.parse condition.expression with
  | ok test => simp [hparse] at h
  | error error =>
      obtain rfl : cause = .malformedCondition error := by simpa [hparse] using h
      refine ⟨error.cause, by simp [Condition.findings, hparse], ?_⟩
      rw [TestError.cause]
      split
      · exact .invalidOperand error
      · exact .neverShown error

private theorem predicted_of_mem_binding {binding : DataBinding} (h : cause ∈ binding.causes) :
    ∃ found ∈ binding.findings, cause.PredictedBy found := by
  obtain ⟨name, hname, rfl⟩ := List.mem_map.mp h
  exact ⟨.unknownFormatter name binding.path,
    List.mem_append_right _ (List.mem_map.mpr ⟨name, hname, rfl⟩), .unknownFormatter name _⟩

private theorem predicted_of_mem_bindings {binding : Option DataBinding} {visits : List Visit}
    (path : ElementPath) (hvisits : ∀ bound, binding = some bound → .binding path bound ∈ visits)
    (h : cause ∈ binding.toList.flatMap DataBinding.causes) :
    ∃ visit ∈ visits, ∃ found ∈ visit.causes, cause.PredictedBy found := by
  obtain ⟨bound, hbound, hcause⟩ := List.mem_flatMap.mp h
  exact ⟨.binding path bound, hvisits bound (Option.mem_toList.mp hbound),
    predicted_of_mem_binding hcause⟩

private theorem predicted_of_mem_leaf {kind : Leaf} (h : cause ∈ kind.causes view scope) :
    ∃ visit ∈ kind.visits path, ∃ found ∈ visit.causes, cause.PredictedBy found := by
  cases kind with
  | text attributes content binding =>
      exact predicted_of_mem_bindings path (fun bound hbound => by simp [Leaf.visits, hbound]) h
  | image attributes picture =>
      exact predicted_of_mem_bindings path (fun bound hbound => by simp [Leaf.visits, hbound]) h
  | table attributes columns binding =>
      obtain ⟨row, -, h⟩ := List.mem_flatMap.mp h
      obtain ⟨column, hcolumn, h⟩ := List.mem_flatMap.mp h
      refine predicted_of_mem_bindings path (fun bound hbound => ?_) h
      refine List.mem_cons_of_mem _ (List.mem_flatMap.mpr ⟨column, hcolumn, ?_⟩)
      simp [Column.visits, hbound]
  | divider attributes rule => cases h
  | unknown fields =>
      obtain rfl := List.mem_singleton.mp h
      exact ⟨.unknown path fields, List.mem_singleton.mpr rfl, _, List.mem_singleton.mpr rfl,
        .unknownElement _⟩

/-! ## Instances and renders -/

private theorem predicted_of_mem_instance {met : Instance} (h : cause ∈ met.causes view) :
    ∃ visit ∈ met.element.ownVisits met.path, ∃ found ∈ visit.causes, cause.PredictedBy found := by
  rcases List.mem_append.mp h with h | h
  · obtain ⟨condition, hcondition, h⟩ := List.mem_flatMap.mp h
    refine ⟨.condition met.path condition, ?_, predicted_of_mem_condition h⟩
    exact Element.mem_ownVisits.mpr (.inr (.inl ⟨condition, Option.mem_toList.mp hcondition, rfl⟩))
  · obtain ⟨path, scope, element⟩ := met
    split at h
    · cases element with
      | container kind children => cases h
      | leaf kind =>
          obtain ⟨visit, hvisit, hfound⟩ := predicted_of_mem_leaf h
          exact ⟨visit, Element.mem_ownVisits.mpr (.inr (.inr hvisit)), hfound⟩
    · cases h

theorem predicted_of_mem_reportOf {template : Element} {diagnostic : Diagnostic}
    (validator : Validator)
    (h : diagnostic ∈ RenderSetting.reportOf view (template.instances view scope)) :
    ∃ finding ∈ (validator.validate template).1,
      finding.path = diagnostic.path ∧ diagnostic.cause.PredictedBy finding.cause := by
  obtain ⟨met, hmet, h⟩ := List.mem_flatMap.mp h
  obtain ⟨cause, hcause, rfl⟩ := List.mem_map.mp h
  obtain ⟨visit, hvisit, found, hfound, hpredicted⟩ := predicted_of_mem_instance hcause
  refine ⟨⟨met.path, found⟩, ?_, rfl, hpredicted⟩
  refine (Validator.mem_findings_validate (fun id first => ?_) validator template).mpr
    ⟨met.element, Element.find?_of_mem_instances hmet, visit, hvisit, hfound⟩
  rintro rfl
  cases hpredicted

/-- Every diagnostic of a render has a finding that foretells it at the same path, so a template in
which nothing is found renders without diagnostics. -/
theorem diagnostics_are_predicted (view : View) (tokens : DesignTokens) (options : RenderOptions)
    (scope : Option Json) (template : Element) (validator : Validator) :
    let renders := (Renderer.start view tokens options).render template scope
    (∀ diagnostic ∈ renders.2.takeDiagnostics.1, ∃ finding ∈ (validator.validate template).1,
        finding.path = diagnostic.path ∧ diagnostic.cause.PredictedBy finding.cause) ∧
      ((validator.validate template).1 = [] → renders.2.takeDiagnostics.1 = []) := by
  intro renders
  have hpredicted : ∀ diagnostic ∈ renders.2.takeDiagnostics.1,
      ∃ finding ∈ (validator.validate template).1,
        finding.path = diagnostic.path ∧ diagnostic.cause.PredictedBy finding.cause := by
    intro diagnostic hmem
    rw [Renderer.diagnostics_render_start, RenderSetting.kept] at hmem
    split at hmem
    · exact predicted_of_mem_reportOf validator hmem
    · cases hmem
  refine ⟨hpredicted, fun hnone => List.eq_nil_iff_forall_not_mem.mpr fun diagnostic hmem => ?_⟩
  obtain ⟨finding, hfinding, -⟩ := hpredicted diagnostic hmem
  rw [hnone] at hfinding
  cases hfinding

theorem diagnostics_are_predicted_in_repeater :
    let template := Element.repeater (.ofPath "items")
      [.boundText ⟨"name", some "shout", none⟩]
    let view : View := ⟨fun _ => .list [.null, .null], []⟩
    let renders := (Renderer.start view .empty .default).render template none
    renders.2.takeDiagnostics.1 =
        [⟨[0], .unknownFormatter "shout"⟩, ⟨[0], .unknownFormatter "shout"⟩] ∧
      (∃ finding ∈ template.findings, finding.path = [0] ∧
        DiagnosticCause.PredictedBy (.unknownFormatter "shout") finding.cause) ∧
      Element.blank.findings = [] ∧
      ((Renderer.start view .empty .default).render .blank none).2.takeDiagnostics.1 = [] := by
  intro template view renders
  have hreported : renders.2.takeDiagnostics.1 =
      [⟨[0], .unknownFormatter "shout"⟩, ⟨[0], .unknownFormatter "shout"⟩] := by
    rw [Renderer.diagnostics_render_start]
    decide +kernel
  have hblank : Element.blank.findings = [] := by decide +kernel
  refine ⟨hreported, ?_, hblank, ?_⟩
  · exact (diagnostics_are_predicted view .empty .default none template .start).1
      ⟨[0], .unknownFormatter "shout"⟩ (hreported ▸ List.mem_cons_self)
  · exact (diagnostics_are_predicted view .empty .default none .blank .start).2 hblank

end Check

end DocTemplate

import DocTemplate.Proofs.Check.Findings
import DocTemplate.Proofs.Render.Hidden

/-!
# Elements that are never shown

A condition that cannot be read is found to keep its element from ever being shown.  It does so
unless it is inverted; the element of an inverted one is shown as if it had no condition.
-/

namespace DocTemplate

variable {path : ElementPath} {error : TestError}

/-! ## Where the finding comes from -/

private theorem neverShown_notMem_binding (binding : DataBinding) :
    .neverShown error ∉ binding.findings := by
  intro h
  rcases List.mem_append.mp h with h | h
  · cases hparse : DataPath.parse binding.path with
    | ok parsed => simp [hparse] at h
    | error pathError =>
        simp only [hparse, List.mem_singleton, DataPathError.cause] at h
        split at h <;> cases h
  · obtain ⟨name, -, hname⟩ := List.mem_map.mp h
    cases hname

private theorem Visit.eq_condition_of_neverShown {visit : Visit}
    (h : .neverShown error ∈ visit.causes) :
    ∃ shown, visit = .condition visit.path shown ∧ .neverShown error ∈ shown.findings := by
  cases visit with
  | condition path shown => exact ⟨shown, rfl, h⟩
  | binding path bound => exact absurd h (neverShown_notMem_binding bound)
  | element path visited =>
      rw [causes] at h
      split at h <;> simp at h
  | column path column => cases h
  | unknown path fields => simp [causes] at h

private theorem Condition.parse_of_neverShown {condition : Condition}
    (h : .neverShown error ∈ condition.findings) :
    Test.parse condition.expression = .error error ∧
      (error.fault = .empty ∨ error.fault = .noOperator) := by
  rcases List.mem_append.mp h with h | h
  · split at h <;> simp at h
  · cases hparse : Test.parse condition.expression with
    | ok test => simp [hparse] at h
    | error parseError =>
        simp only [hparse, List.mem_singleton, TestError.cause] at h
        obtain ⟨expression, fault⟩ := parseError
        cases fault with
        | empty =>
            cases h
            exact ⟨rfl, .inl rfl⟩
        | noOperator =>
            cases h
            exact ⟨rfl, .inr rfl⟩
        | invalidOperand cause => cases h

theorem exists_of_mem_neverShown {validator : Validator} {template : Element}
    (h : ⟨path, .neverShown error⟩ ∈ (validator.validate template).1) :
    ∃ element condition, template.find? path = some element ∧
      element.condition = some condition ∧ Test.parse condition.expression = .error error ∧
      (error.fault = .empty ∨ error.fault = .noOperator) := by
  have hkind : ∀ id first, FindingCause.neverShown error ≠ .duplicateId id first :=
    fun _ _ => nofun
  obtain ⟨element, hfind, visit, hvisit, hcause⟩ :=
    (Validator.mem_findings_validate hkind validator template).mp h
  obtain ⟨condition, hcondition, hmem⟩ := Visit.eq_condition_of_neverShown hcause
  have hpath : visit.path = path := Element.path_of_mem_ownVisits hvisit
  rw [hcondition, hpath] at hvisit
  exact ⟨element, condition, hfind, Element.condition_of_mem_ownVisits hvisit,
    Condition.parse_of_neverShown hmem⟩

/-! ## What the finding promises -/

theorem Element.isShown_of_parse_error {element : Element} {condition : Condition}
    (hcondition : element.condition = some condition)
    (hparse : Test.parse condition.expression = .error error) (view : View)
    (scope : Option Json) : element.isShown view scope = condition.invert := by
  simp [isShown, hcondition, Condition.holds, Test.evaluate, hparse]

namespace Check

/-- At an element that is found never to be shown stands a condition that cannot be read.  Without
inversion the element has no picture in any of its instances and could as well be missing; with it
the element could as well have no condition. -/
theorem never_shown_unless_inverted (validator : Validator) (template : Element)
    (path : ElementPath) (error : TestError)
    (h : ⟨path, .neverShown error⟩ ∈ (validator.validate template).1) :
    ∃ element condition, template.find? path = some element ∧
      element.condition = some condition ∧ Test.parse condition.expression = .error error ∧
      (error.fault = .empty ∨ error.fault = .noOperator) ∧
      ∀ view tokens options scope,
        let rendered (tree : Element) := ((Renderer.start view tokens options).render tree scope).1
        (condition.invert = false →
          (∀ met ∈ template.instances view scope, met.path = path →
            ((Renderer.start view tokens options).render met.element met.scope).1 = none) ∧
          (path = [] → rendered template = none) ∧
          (path ≠ [] → rendered template = rendered (template.eraseAt path))) ∧
        (condition.invert = true →
          rendered template = rendered (template.modifyAt (·.setCondition none) path)) := by
  obtain ⟨element, condition, hfind, hcondition, hparse, hfault⟩ := exists_of_mem_neverShown h
  refine ⟨element, condition, hfind, hcondition, hparse, hfault, ?_⟩
  intro view tokens options scope rendered
  have hshown := Element.isShown_of_parse_error hcondition hparse view
  simp only [rendered, Renderer.fst_render_start]
  constructor
  · intro hplain
    have hhidden (inner : Option Json) :
        RenderSetting.picture ⟨view, tokens, options⟩ inner element = none :=
      RenderSetting.picture_eq_none_of_hidden ((hshown inner).trans hplain)
    refine ⟨?_, ?_, ?_⟩
    · rintro met hmet rfl
      obtain rfl : element = met.element :=
        Option.some.inj (hfind.symm.trans (Element.find?_of_mem_instances hmet))
      exact hhidden met.scope
    · rintro rfl
      cases hfind
      exact hhidden scope
    · intro hpath
      exact (RenderSetting.picture_eraseAt hpath hfind fun inner _ => hhidden inner).symm
  · intro hinverted
    refine (RenderSetting.picture_modifyAt hfind fun inner _ => ?_).symm
    exact RenderSetting.picture_setCondition_none ((hshown inner).trans hinverted)

theorem never_shown_unless_inverted_siblings :
    let text (content : String) (condition : Condition) : Element :=
      .leaf (.text ⟨none, none, some condition⟩ (some content) none)
    let template := Element.frame [text "plain" ⟨"a ~ b", false⟩, text "inverted" ⟨"", true⟩]
    let rendered (tree : Element) := ((Renderer.start .empty .empty .default).render tree none).1
    ⟨[0], .neverShown ⟨"a ~ b", .noOperator⟩⟩ ∈ template.findings ∧
      rendered template = rendered (template.eraseAt [0]) ∧
      ⟨[1], .neverShown ⟨"", .empty⟩⟩ ∈ template.findings ∧
      rendered template = rendered (template.modifyAt (·.setCondition none) [1]) := by
  intro text template rendered
  have hplain : ⟨[0], .neverShown ⟨"a ~ b", .noOperator⟩⟩ ∈ template.findings := by decide +kernel
  have hinverted : ⟨[1], .neverShown ⟨"", .empty⟩⟩ ∈ template.findings := by decide +kernel
  obtain ⟨first, plain, hfirst, hfirstCondition, -, -, hdeleted⟩ :=
    never_shown_unless_inverted .start template [0] ⟨"a ~ b", .noOperator⟩ hplain
  obtain ⟨second, inverted, hsecond, hsecondCondition, -, -, hbare⟩ :=
    never_shown_unless_inverted .start template [1] ⟨"", .empty⟩ hinverted
  cases hfirst
  cases hfirstCondition
  cases hsecond
  cases hsecondCondition
  refine ⟨hplain, ?_, hinverted, ?_⟩
  · exact ((hdeleted .empty .empty .default none).1 rfl).2.2 (List.cons_ne_nil 0 [])
  · exact (hbare .empty .empty .default none).2 rfl

/-- The finding says of an inverted condition, too, that its element will never be shown. -/
theorem inverted_malformed_condition_is_shown :
    let template : Element :=
      .leaf (.text ⟨none, none, some (.inverted "a ~ b")⟩ (some "x") none)
    (∃ finding ∈ template.findings, finding.path = [] ∧ finding.message =
      "No comparison operator in 'a ~ b'; the element will never be shown") ∧
      ((Renderer.start .empty .empty .default).render template none).1 =
        some (.figure (.text none .empty "x")) := by
  intro template
  have hfinding : ⟨[], .neverShown ⟨"a ~ b", .noOperator⟩⟩ ∈ template.findings := by
    decide +kernel
  refine ⟨⟨_, hfinding, rfl, by decide +kernel⟩, ?_⟩
  have hshown : template.isShown .empty none = true := by decide +kernel
  rw [Renderer.fst_render_start, RenderSetting.picture, if_pos hshown]
  rfl

end Check

end DocTemplate

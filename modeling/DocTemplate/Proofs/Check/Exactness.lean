import DocTemplate.Proofs.Check.Duplicates
import DocTemplate.Proofs.Check.Errors

/-!
# What a validator reports

The findings of a validator depend on the template only.  They are listed in document order, each at
an element of the template, and the repeated identifiers and the errors among them are exactly those
that the template has.
-/

namespace DocTemplate.Validator

/-! ## Document order -/

private theorem pairwise_findings_foldl {visits : List Visit}
    (hvisits : visits.Pairwise (·.path ≤ ·.path))
    {validator : Validator} (hfindings : validator.findings.Pairwise (·.path ≤ ·.path))
    (hbefore : ∀ finding ∈ validator.findings, ∀ visit ∈ visits, finding.path ≤ visit.path) :
    (visits.foldl visit validator).findings.Pairwise (·.path ≤ ·.path) := by
  induction visits generalizing validator with
  | nil => exact hfindings
  | cons visit rest ih =>
      obtain ⟨hvisit, hrest⟩ := List.pairwise_cons.mp hvisits
      have hadded : ∀ finding ∈ ((validator.repeatedId? visit).toList ++ visit.causes).map
          (Finding.mk visit.path), finding.path = visit.path := by
        intro finding hfinding
        obtain ⟨cause, -, rfl⟩ := List.mem_map.mp hfinding
        rfl
      refine ih hrest ?_ fun finding hfinding later hlater => ?_
      · rw [findings_visit, List.pairwise_append]
        refine ⟨hfindings, ?_, fun finding hfinding added hmem => ?_⟩
        · refine List.pairwise_of_forall_mem_list fun first hfirst second hsecond => ?_
          rw [hadded first hfirst, hadded second hsecond]
        · rw [hadded added hmem]
          exact hbefore finding hfinding visit List.mem_cons_self
      · rw [findings_visit, List.mem_append] at hfinding
        rcases hfinding with hfinding | hfinding
        · exact hbefore finding hfinding later (List.mem_cons_of_mem _ hlater)
        · rw [hadded finding hfinding]
          exact hvisit later hlater

theorem pairwise_findings_validate (validator : Validator) (template : Element) :
    ((validator.validate template).1.map Finding.path).Pairwise (· ≤ ·) := by
  rw [fst_validate, List.pairwise_map]
  refine pairwise_findings_foldl ?_ List.Pairwise.nil fun _ h => nomatch h
  refine (template.pairwise_visitsAt .root).imp fun hbefore => ?_
  rcases hbefore with hlt | hpart
  · exact le_of_lt hlt
  · exact le_of_eq hpart.1.symm

theorem exists_find?_of_mem_findings {validator : Validator} {template : Element}
    {finding : Finding} (h : finding ∈ (validator.validate template).1) :
    ∃ element, template.find? finding.path = some element := by
  obtain ⟨path, cause⟩ := finding
  by_cases hduplicate : ∃ id first, cause = .duplicateId id first
  · obtain ⟨id, first, rfl⟩ := hduplicate
    obtain ⟨⟨element, hfind, -⟩, -⟩ := (exists_duplicate_iff validator).mp ⟨first, h⟩
    exact ⟨element, hfind⟩
  · obtain ⟨element, hfind, -⟩ := (mem_findings_validate
      (fun id first heq => hduplicate ⟨id, first, heq⟩) validator template).mp h
    exact ⟨element, hfind⟩

/-! ## Exactness -/

/-- A used validator finds what a new one does, in document order and at elements of the template.
An identifier is found to be repeated at just the elements that have it and stand behind the first
that does, which is named; and an error is found just where something is at fault. -/
theorem findings_are_exact (validator : Validator) (template : Element) :
    let findings := (validator.validate template).1
    findings = template.findings ∧
      (findings.map Finding.path).Pairwise (· ≤ ·) ∧
      (∀ finding ∈ findings, ∃ element, template.find? finding.path = some element) ∧
      (∀ path id, (∃ first, ⟨path, .duplicateId id first⟩ ∈ findings) ↔
        template.UsesId id path ∧ ∃ earlier < path, template.UsesId id earlier) ∧
      (∀ path id first, ⟨path, .duplicateId id first⟩ ∈ findings →
        IsLeast { place | template.UsesId id place } first) ∧
      (∀ id, findings.countP (Finding.repeatsId id) =
        { place | template.UsesId id place }.ncard - 1) ∧
      ((∃ finding ∈ findings, finding.level = .error) ↔
        ∃ path element, template.find? path = some element ∧ element.Flawed) :=
  ⟨rfl, pairwise_findings_validate validator template,
    fun _ => exists_find?_of_mem_findings, fun _ _ => exists_duplicate_iff validator,
    fun _ _ _ => isLeast_of_duplicate validator, countP_findings_validate validator template,
    exists_error_iff validator template⟩

/-- The identifier is used three times, and the data path of the condition has an empty segment. -/
theorem findings_are_exact_nested :
    let rule (id : String) : Element := .leaf (.divider ⟨some id, none, none⟩ ⟨none, none⟩)
    let text : Element := .leaf (.text ⟨some "a", none, some (.ofExpression "b. > 1")⟩ none none)
    let template := Element.frame [.frame [rule "a", rule "b"], rule "a", text]
    ⟨[2], .duplicateId "a" [0, 0]⟩ ∈ template.findings ∧
      IsLeast { place | template.UsesId "a" place } [0, 0] ∧
      { place | template.UsesId "a" place }.ncard - 1 = 2 ∧
      ∃ path element, template.find? path = some element ∧ element.Flawed := by
  intro rule text template
  have hduplicate : ⟨[2], .duplicateId "a" [0, 0]⟩ ∈ template.findings := by decide +kernel
  have hcount : template.findings.countP (Finding.repeatsId "a") = 2 := by decide +kernel
  have herror : ∃ finding ∈ template.findings, finding.level = .error := by decide +kernel
  obtain ⟨-, -, -, -, hfirst, hcounted, hflawed⟩ := findings_are_exact .start template
  exact ⟨hduplicate, hfirst [2] "a" [0, 0] hduplicate, (hcounted "a").symm.trans hcount,
    hflawed.mp herror⟩

end DocTemplate.Validator

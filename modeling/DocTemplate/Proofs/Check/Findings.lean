import DocTemplate.Check.Validator
import DocTemplate.Proofs.Template.Visits

/-!
# Findings and visits

Apart from identifiers used again, what a validator finds is what the single visits give cause for.
-/

namespace DocTemplate

/-! ## What visits give cause for -/

def Visit.causes : Visit → List FindingCause
  | .element _ visited => if visited.hasNoColumns then [.noColumns] else []
  | .condition _ shown => shown.findings
  | .binding _ bound => bound.findings
  | .column _ _ => []
  | .unknown _ fields => [.unknownElement (unknownType fields)]

namespace Validator

def repeatedId? (validator : Validator) : Visit → Option FindingCause
  | .element _ visited =>
      visited.id.bind fun id => (validator.firstUses.lookup id).map (.duplicateId id)
  | _ => none

private theorem findings_useId (validator : Validator) (path : ElementPath) (element : Element) :
    (validator.useId path element.id).findings =
      validator.findings ++
        (validator.repeatedId? (.element path element)).toList.map (⟨path, ·⟩) := by
  rw [repeatedId?]
  cases element.id with
  | none => simp [useId]
  | some id =>
      rw [useId, Option.bind_some]
      cases validator.firstUses.lookup id with
      | none => simp
      | some first => simp [report]

theorem findings_visit (validator : Validator) (visit : Visit) :
    (validator.visit visit).findings =
      validator.findings ++
        ((validator.repeatedId? visit).toList ++ visit.causes).map (⟨visit.path, ·⟩) := by
  cases visit with
  | element path element =>
      simp [Validator.visit, report, findings_useId, Visit.causes, Visit.path]
  | column path column => simp [Validator.visit, repeatedId?, Visit.causes]
  | _ => rfl

variable {finding : Finding}

private theorem mem_findings_visit (hcause : ∀ id first, finding.cause ≠ .duplicateId id first)
    (validator : Validator) (visit : Visit) :
    finding ∈ (validator.visit visit).findings ↔
      finding ∈ validator.findings ∨
        visit.path = finding.path ∧ finding.cause ∈ visit.causes := by
  have hnotRepeated : finding.cause ∉ (validator.repeatedId? visit).toList := by
    cases visit with
    | element path element =>
        rw [Option.mem_toList, repeatedId?]
        intro hrepeated
        obtain ⟨id, -, hused⟩ := Option.bind_eq_some_iff.mp hrepeated
        obtain ⟨first, -, hduplicate⟩ := Option.map_eq_some_iff.mp hused
        exact hcause id first hduplicate.symm
    | _ => exact List.not_mem_nil
  rw [findings_visit, List.mem_append]
  refine or_congr_right ⟨fun hmem => ?_, fun ⟨hpath, hmem⟩ => ?_⟩
  · obtain ⟨cause, hcauses, rfl⟩ := List.mem_map.mp hmem
    exact ⟨rfl, (List.mem_append.mp hcauses).resolve_left hnotRepeated⟩
  · exact List.mem_map.mpr ⟨finding.cause, List.mem_append_right _ hmem, by rw [hpath]⟩

private theorem mem_findings_foldl (hcause : ∀ id first, finding.cause ≠ .duplicateId id first)
    (validator : Validator) (visits : List Visit) :
    finding ∈ (visits.foldl visit validator).findings ↔
      finding ∈ validator.findings ∨
        ∃ visit ∈ visits, visit.path = finding.path ∧ finding.cause ∈ visit.causes := by
  induction visits generalizing validator with
  | nil => simp
  | cons first rest ih =>
      rw [List.foldl_cons, ih, mem_findings_visit hcause, or_assoc]
      simp only [List.mem_cons, exists_eq_or_imp]

theorem fst_validate (validator : Validator) (template : Element) :
    (validator.validate template).1 = (template.visits.foldl visit start).findings := by
  rw [validate, Tour.through_eq]
  rfl

theorem mem_findings_validate (hcause : ∀ id first, finding.cause ≠ .duplicateId id first)
    (validator : Validator) (template : Element) :
    finding ∈ (validator.validate template).1 ↔
      ∃ found, template.find? finding.path = some found ∧
        ∃ visit ∈ found.ownVisits finding.path, finding.cause ∈ visit.causes := by
  have hnone : finding ∉ start.findings := List.not_mem_nil
  rw [fst_validate, mem_findings_foldl hcause, or_iff_right hnone]
  constructor
  · rintro ⟨visit, hvisit, hpath, hmem⟩
    obtain ⟨path, found, hfind, hown⟩ := Element.mem_visitsAt.mp hvisit
    obtain rfl : path = finding.path := (Element.path_of_mem_ownVisits hown).symm.trans hpath
    exact ⟨found, hfind, visit, hown, hmem⟩
  · rintro ⟨found, hfind, visit, hown, hmem⟩
    exact ⟨visit, Element.mem_visitsAt.mpr ⟨finding.path, found, hfind, hown⟩,
      Element.path_of_mem_ownVisits hown, hmem⟩

end Validator

end DocTemplate

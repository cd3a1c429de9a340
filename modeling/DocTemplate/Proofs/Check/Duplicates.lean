import DocTemplate.Proofs.Check.Findings
import Mathlib.Data.Set.Card

/-!
# Identifiers used again

A validator knows an identifier from its first use on.  So every later use is found, and is found to
repeat the first one, which stands at the least of all paths where the identifier is used.
-/

namespace DocTemplate

/-! ## Uses -/

def Visit.use? (visit : Visit) : Option (String × ElementPath) :=
  visit.element?.bind fun (path, visited) => visited.id.map (·, path)

@[simp] theorem Visit.use?_element (path : ElementPath) (visited : Element) :
    (Visit.element path visited).use? = visited.id.map (·, path) := rfl

namespace Element

def UsesId (template : Element) (id : String) (path : ElementPath) : Prop :=
  ∃ element, template.find? path = some element ∧ element.id = some id

def uses (template : Element) : List (String × ElementPath) :=
  template.visits.filterMap Visit.use?

variable {template : Element} {id : String} {path : ElementPath}

theorem uses_eq (template : Element) :
    template.uses = template.met.filterMap fun (path, visited) => visited.id.map (·, path) :=
  List.filterMap_filterMap.symm

theorem mem_uses : (id, path) ∈ template.uses ↔ template.UsesId id path := by
  simp only [uses_eq, List.mem_filterMap, Prod.exists, mem_met, UsesId, Option.map_eq_some_iff,
    Prod.mk.injEq]
  constructor
  · rintro ⟨path, element, hfind, id, hid, rfl, rfl⟩
    exact ⟨element, hfind, hid⟩
  · rintro ⟨element, hfind, hid⟩
    exact ⟨path, element, hfind, id, hid, rfl, rfl⟩

theorem pairwise_uses (template : Element) : template.uses.Pairwise (·.2 < ·.2) := by
  rw [uses_eq]
  refine (List.pairwise_map.mp (pairwise_met template)).filterMap _ ?_
  rintro ⟨path, visited⟩ ⟨path', visited'⟩ hlt use huse use' huse'
  obtain ⟨id, -, rfl⟩ := Option.map_eq_some_iff.mp huse
  obtain ⟨id', -, rfl⟩ := Option.map_eq_some_iff.mp huse'
  exact hlt

end Element

/-! ## Findings apart from repeated identifiers -/

variable {id : String} {path first : ElementPath}

private theorem Condition.duplicateId_notMem (condition : Condition) :
    .duplicateId id first ∉ condition.findings := by
  intro h
  rcases List.mem_append.mp h with h | h
  · split at h <;> simp at h
  · split at h
    · cases h
    · rw [TestError.cause] at h
      split at h <;> simp at h

private theorem DataBinding.duplicateId_notMem (binding : DataBinding) :
    .duplicateId id first ∉ binding.findings := by
  intro h
  rcases List.mem_append.mp h with h | h
  · split at h
    · cases h
    · rw [DataPathError.cause] at h
      split at h <;> simp at h
  · obtain ⟨name, -, hname⟩ := List.mem_map.mp h
    cases hname

theorem Visit.duplicateId_notMem (visit : Visit) : .duplicateId id first ∉ visit.causes := by
  cases visit with
  | element path visited =>
      rw [causes]
      split <;> simp
  | condition path shown => exact shown.duplicateId_notMem
  | binding path bound => exact bound.duplicateId_notMem
  | column path column => exact List.not_mem_nil
  | unknown path fields => simp [causes]

/-! ## First uses -/

namespace Validator

theorem repeatedId?_eq (validator : Validator) (visit : Visit) :
    validator.repeatedId? visit = visit.use?.bind fun (id, _) =>
      (validator.firstUses.lookup id).map (.duplicateId id) := by
  cases visit with
  | element path visited =>
      rw [repeatedId?, Visit.use?_element]
      cases visited.id <;> rfl
  | _ => rfl

theorem firstUses_visit_of_not_use {visit : Visit} (h : visit.use? = none) (validator : Validator) :
    (validator.visit visit).firstUses = validator.firstUses := by
  cases visit with
  | element path visited =>
      have hid : visited.id = none := Option.map_eq_none_iff.mp h
      rw [Validator.visit, report, hid, useId]
  | _ => rfl

theorem lookup_firstUses_visit_of_use {visit : Visit} {used : String}
    (h : visit.use? = some (used, path)) (validator : Validator) (id : String) :
    (validator.visit visit).firstUses.lookup id =
      (validator.firstUses.lookup id).or ([(used, path)].lookup id) := by
  cases visit with
  | element path' visited =>
      obtain ⟨id', hid, heq⟩ := Option.map_eq_some_iff.mp h
      cases heq
      rw [Validator.visit, report, hid, useId]
      by_cases hsame : id = used
      · subst hsame
        cases hlookup : validator.firstUses.lookup id <;> simp [report, hlookup]
      · cases validator.firstUses.lookup used <;>
          simp [report, List.lookup_cons, beq_false_of_ne hsame]
  | _ => cases h

private theorem path_of_use? {visit : Visit} (h : visit.use? = some (id, path)) :
    visit.path = path := by
  cases visit with
  | element path' visited =>
      obtain ⟨id', -, heq⟩ := Option.map_eq_some_iff.mp h
      cases heq
      rfl
  | _ => cases h

private theorem mem_repeatedId? {validator : Validator} {visit : Visit} :
    .duplicateId id first ∈ (validator.repeatedId? visit).toList ∧ visit.path = path ↔
      visit.use? = some (id, path) ∧ validator.firstUses.lookup id = some first := by
  rw [Option.mem_toList, repeatedId?_eq]
  constructor
  · rintro ⟨h, rfl⟩
    obtain ⟨⟨used, place⟩, huse, hused⟩ := Option.bind_eq_some_iff.mp h
    obtain ⟨first, hlookup, heq⟩ := Option.map_eq_some_iff.mp hused
    cases heq
    exact ⟨by rw [path_of_use? huse, huse], hlookup⟩
  · rintro ⟨huse, hlookup⟩
    exact ⟨by simp [huse, hlookup], path_of_use? huse⟩

private theorem mem_findings_visit_duplicate (validator : Validator) (visit : Visit) :
    ⟨path, .duplicateId id first⟩ ∈ (validator.visit visit).findings ↔
      ⟨path, .duplicateId id first⟩ ∈ validator.findings ∨
        visit.use? = some (id, path) ∧ validator.firstUses.lookup id = some first := by
  rw [findings_visit, List.mem_append, ← mem_repeatedId?]
  refine or_congr_right ⟨fun h => ?_, fun ⟨hmem, hpath⟩ => ?_⟩
  · obtain ⟨cause, hcause, heq⟩ := List.mem_map.mp h
    cases heq
    exact ⟨(List.mem_append.mp hcause).resolve_right visit.duplicateId_notMem, rfl⟩
  · exact List.mem_map.mpr ⟨_, List.mem_append_left _ hmem, by rw [hpath]⟩

/-- The uses before are those that the validator knows and those of the visits before. -/
theorem mem_findings_foldl_duplicate (validator : Validator) (visits : List Visit) :
    ⟨path, .duplicateId id first⟩ ∈ (visits.foldl visit validator).findings ↔
      ⟨path, .duplicateId id first⟩ ∈ validator.findings ∨
        ∃ before after, visits.filterMap Visit.use? = before ++ (id, path) :: after ∧
          (validator.firstUses.lookup id).or (before.lookup id) = some first := by
  induction visits generalizing validator with
  | nil => simp
  | cons visit rest ih =>
      rw [List.foldl_cons, ih, mem_findings_visit_duplicate, or_assoc]
      refine or_congr_right ?_
      cases huse : visit.use? with
      | none => simp [huse, firstUses_visit_of_not_use huse]
      | some use =>
          obtain ⟨used, place⟩ := use
          rw [List.filterMap_cons_some huse, lookup_firstUses_visit_of_use huse]
          constructor
          · rintro (⟨heq, hlookup⟩ | ⟨before, after, hrest, hlookup⟩)
            · cases heq
              exact ⟨[], _, rfl, by simp [hlookup]⟩
            · refine ⟨(used, place) :: before, after, by rw [hrest]; rfl, ?_⟩
              rw [← List.singleton_append, List.lookup_append, ← Option.or_assoc, hlookup]
          · rintro ⟨_ | ⟨use, before⟩, after, huses, hlookup⟩
            · cases huses
              exact .inl ⟨rfl, by simpa using hlookup⟩
            · rw [List.cons_append] at huses
              obtain ⟨rfl, hrest⟩ := List.cons.inj huses
              refine .inr ⟨before, after, hrest, ?_⟩
              rw [Option.or_assoc, ← List.lookup_append, List.singleton_append, hlookup]

/-! ## Repetitions in a template -/

variable (validator : Validator) {template : Element}

theorem mem_findings_validate_duplicate :
    ⟨path, .duplicateId id first⟩ ∈ (validator.validate template).1 ↔
      ∃ before after, template.uses = before ++ (id, path) :: after ∧
        before.lookup id = some first := by
  have hnone : (⟨path, .duplicateId id first⟩ : Finding) ∉ start.findings := List.not_mem_nil
  rw [fst_validate, mem_findings_foldl_duplicate, or_iff_right hnone]
  rfl

theorem isLeast_of_duplicate
    (h : ⟨path, .duplicateId id first⟩ ∈ (validator.validate template).1) :
    IsLeast { place | template.UsesId id place } first := by
  obtain ⟨before, after, huses, hlookup⟩ := (mem_findings_validate_duplicate validator).mp h
  obtain ⟨others, more, rfl, hothers⟩ := List.lookup_eq_some_iff.mp hlookup
  have hordered := template.pairwise_uses
  rw [huses, List.append_assoc, List.pairwise_append, List.cons_append,
    List.pairwise_cons] at hordered
  refine ⟨Element.mem_uses.mp (by simp [huses]), fun place hplace => ?_⟩
  have hmem := Element.mem_uses.mpr hplace
  rw [huses, List.append_assoc, List.mem_append, List.cons_append, List.mem_cons] at hmem
  rcases hmem with hmem | heq | hmem
  · exact absurd rfl (bne_iff_ne.mp (hothers _ hmem))
  · cases heq
    exact le_refl _
  · exact le_of_lt (hordered.2.1.1 _ hmem)

theorem exists_duplicate_iff :
    (∃ first, ⟨path, .duplicateId id first⟩ ∈ (validator.validate template).1) ↔
      template.UsesId id path ∧ ∃ earlier < path, template.UsesId id earlier := by
  have hordered := template.pairwise_uses
  simp only [mem_findings_validate_duplicate, ← Element.mem_uses]
  constructor
  · rintro ⟨first, before, after, huses, hlookup⟩
    obtain ⟨others, more, rfl, -⟩ := List.lookup_eq_some_iff.mp hlookup
    rw [huses, List.pairwise_append] at hordered
    exact ⟨by simp [huses], first, hordered.2.2 (id, first) (by simp) _ List.mem_cons_self,
      by simp [huses]⟩
  · rintro ⟨hpath, earlier, hlt, hearlier⟩
    obtain ⟨before, after, huses⟩ := List.append_of_mem hpath
    rw [huses, List.mem_append, List.mem_cons] at hearlier
    rw [huses, List.pairwise_append, List.pairwise_cons] at hordered
    have hbefore : (id, earlier) ∈ before := by
      rcases hearlier with hmem | heq | hmem
      · exact hmem
      · cases heq
        exact absurd hlt (lt_irrefl _)
      · exact absurd hlt (lt_asymm (hordered.2.1.1 _ hmem))
    cases hlookup : before.lookup id with
    | none => exact absurd rfl (bne_iff_ne.mp (List.lookup_eq_none_iff.mp hlookup _ hbefore))
    | some first => exact ⟨first, before, after, huses, hlookup⟩

end Validator

/-! ## Number of repetitions -/

def Finding.repeatsId (id : String) (finding : Finding) : Bool :=
  match finding.cause with
  | .duplicateId other _ => other == id
  | _ => false

namespace Validator

private theorem countP_findings_visit (validator : Validator) (visit : Visit) :
    (validator.visit visit).findings.countP (Finding.repeatsId id) =
      validator.findings.countP (Finding.repeatsId id) +
        ((validator.repeatedId? visit).toList.map (⟨visit.path, ·⟩)).countP
          (Finding.repeatsId id) := by
  have hothers : (visit.causes.map (⟨visit.path, ·⟩)).countP (Finding.repeatsId id) = 0 := by
    refine List.countP_eq_zero.mpr fun finding hfinding => ?_
    obtain ⟨cause, hcause, rfl⟩ := List.mem_map.mp hfinding
    cases cause with
    | duplicateId id first => exact absurd hcause visit.duplicateId_notMem
    | _ => exact Bool.false_ne_true
  rw [findings_visit, List.map_append, List.countP_append, List.countP_append, hothers,
    Nat.add_zero]

private theorem countP_findings_foldl (validator : Validator) (visits : List Visit) :
    (visits.foldl visit validator).findings.countP (Finding.repeatsId id) =
      validator.findings.countP (Finding.repeatsId id) +
        ((visits.filterMap Visit.use?).countP (·.1 == id) -
          (validator.firstUses.lookup id).isNone.toNat) := by
  induction visits generalizing validator with
  | nil => simp
  | cons visit rest ih =>
      rw [List.foldl_cons, ih, countP_findings_visit, repeatedId?_eq]
      cases huse : visit.use? with
      | none =>
          rw [firstUses_visit_of_not_use huse, List.filterMap_cons_none huse, Option.bind_none]
          rfl
      | some use =>
          obtain ⟨used, place⟩ := use
          rw [lookup_firstUses_visit_of_use huse, List.filterMap_cons_some huse, List.countP_cons]
          by_cases hsame : used = id
          · subst hsame
            cases hlookup : validator.firstUses.lookup used with
            | none => simp [hlookup]
            | some first => simp [hlookup, Finding.repeatsId, Nat.add_right_comm, ← Nat.add_assoc]
          · have hother : [(used, place)].lookup id = none := by simpa using Ne.symm hsame
            cases hlookup : validator.firstUses.lookup used <;>
              simp [hsame, hother, hlookup, Finding.repeatsId]

theorem countP_findings_validate (validator : Validator) (template : Element) (id : String) :
    (validator.validate template).1.countP (Finding.repeatsId id) =
      { path | template.UsesId id path }.ncard - 1 := by
  have hplaces : { path | template.UsesId id path } =
      ((template.uses.filter (·.1 == id)).map Prod.snd).toFinset := by
    ext path
    simp [← Element.mem_uses]
  have hnodup : ((template.uses.filter (·.1 == id)).map Prod.snd).Nodup := by
    exact List.pairwise_map.mpr ((template.pairwise_uses.filter _).imp ne_of_lt)
  rw [fst_validate, countP_findings_foldl, hplaces, Set.ncard_coe_finset,
    List.toFinset_card_of_nodup hnodup, List.length_map, ← List.countP_eq_length_filter]
  exact Nat.zero_add _

end Validator

end DocTemplate

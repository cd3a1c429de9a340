import DocTemplate.Proofs.Check.Findings
import DocTemplate.Proofs.Data.Comparison
import DocTemplate.Proofs.Data.Grammar

/-!
# Errors in a template

A finding is an error where something can never be as intended: an element of an unknown type, a
binding or a condition whose data path cannot be read.  Blank paths of bindings, blank conditions and
conditions without a comparison are warnings only.
-/

namespace DocTemplate

open DocTemplate.Text

/-! ## Operands -/

/-- What a condition takes for a data path.  An expression without a space is a bare path, unless it
is blank; any other is a comparison if one of the tokens occurs in it, and is split at the first
occurrence of the one that is looked for first. -/
inductive Test.Operand (chars : List Char) : List Char → Prop
  | bare (hgiven : ∃ c ∈ chars, isBlank c = false) (hspace : ' ' ∉ chars) : Operand chars chars
  | left {comparison : Comparison} {before after : List Char} (hspace : ' ' ∈ chars)
      (hcut : FirstCut comparison.token.toList chars before after)
      (hrank : ∀ earlier : Comparison, earlier.rank < comparison.rank →
        ¬earlier.token.toList <:+: chars) : Operand chars (trim before)

namespace Test

variable {chars operand : List Char} {cause : DataPathError}

private theorem Operand.given (h : Operand chars operand) : ∃ c ∈ chars, isBlank c = false := by
  cases h with
  | bare hgiven hspace => exact hgiven
  | @left comparison _ _ hspace hcut hrank =>
      obtain ⟨c, hc, hblank⟩ := comparison.exists_mem_token
      exact ⟨c, by simp [hcut.joined, hc], hblank⟩

private theorem operand_iff_of_not_space (hgiven : ∃ c ∈ chars, isBlank c = false)
    (hspace : ' ' ∉ chars) :
    Operand chars operand ↔ operand = chars := by
  constructor
  · rintro (⟨-, -⟩ | ⟨hmem, -, -⟩)
    · rfl
    · exact absurd hmem hspace
  · rintro rfl
    exact .bare hgiven hspace

private theorem operand_iff_of_space (hspace : ' ' ∈ chars) :
    Operand chars operand ↔ ∃ comparison left right,
      splitComparison? chars = some (comparison, left, right) ∧ operand = trim left := by
  simp only [splitComparison?_eq_some_iff, cutAt?_eq_some_iff, cutAt?_eq_none_iff]
  constructor
  · rintro (⟨-, hbare⟩ | ⟨-, hcut, hrank⟩)
    · exact absurd hspace hbare
    · exact ⟨_, _, _, ⟨hcut, hrank⟩, rfl⟩
  · rintro ⟨comparison, before, after, ⟨hcut, hrank⟩, rfl⟩
    exact .left hspace hcut hrank

private theorem readChars_eq_invalidOperand_iff :
    readChars chars = .error (.invalidOperand cause) ↔
      ∃ operand, Operand chars operand ∧
        DataPath.parse (String.ofList operand) = .error cause := by
  by_cases hgiven : ∃ c ∈ chars, isBlank c = false
  · obtain ⟨c, hmem, hblank⟩ := id hgiven
    rw [readChars, if_neg (by simpa using trim_ne_nil hmem hblank)]
    by_cases hspace : ' ' ∈ chars
    · rw [if_neg (by simpa using hspace)]
      simp only [operand_iff_of_space hspace]
      cases splitComparison? chars with
      | none => simp
      | some split =>
          obtain ⟨comparison, left, right⟩ := split
          cases hparse : DataPath.parse (String.ofList (trim left)) <;> simp [hparse]
    · rw [if_pos (by simpa using hspace)]
      simp only [operand_iff_of_not_space hgiven hspace, exists_eq_left]
      cases DataPath.parse (String.ofList chars) <;> simp [Except.mapError, Except.map]
  · have hblank : trim chars = [] := trim_eq_nil_iff.mpr (by simpa using hgiven)
    rw [readChars, if_pos (by simpa using hblank)]
    constructor
    · intro h
      cases h
    · rintro ⟨operand, hoperand, -⟩
      exact absurd hoperand.given hgiven

private theorem parse_eq_error_iff {expression : String} {error : TestError} :
    parse expression = .error error ↔
      error.expression = expression ∧ readChars expression.toList = .error error.fault := by
  obtain ⟨source, fault⟩ := error
  rw [parse]
  cases readChars expression.toList <;> simp [Except.mapError, eq_comm]

end Test

/-! ## Bindings and conditions at fault -/

def DataBinding.IsMalformed (binding : DataBinding) : Prop :=
  (∃ c ∈ binding.path.toList, isBlank c = false) ∧
    ∃ error, DataPath.parse binding.path = .error error

def Condition.HasMalformedOperand (condition : Condition) : Prop :=
  ∃ operand, Test.Operand condition.expression.toList operand ∧
    ∃ error, DataPath.parse (String.ofList operand) = .error error

private theorem DataPath.SegmentFault.ne_empty {segment : List Char} {fault : DataPathFault}
    (h : SegmentFault segment fault) : fault ≠ .empty := by
  rintro rfl
  cases h with
  | brackets _ _ hbrackets =>
      obtain ⟨_, hbracket⟩ := hbrackets
      cases hbracket

private theorem DataPath.fault_eq_empty_iff {source : String} {error : DataPathError}
    (h : parse source = .error error) :
    error.fault = .empty ↔ ∀ c ∈ source.toList, isBlank c = true := by
  have hfault := (parse_eq_error_iff.mp h).2
  constructor
  · intro hempty
    rw [hempty] at hfault
    cases hfault with
    | blank hblank => exact hblank
    | segment _ _ _ hsegment => exact absurd rfl hsegment.ne_empty
  · intro hblank
    rw [← readChars_eq_error_iff, readChars_of_blank hblank] at hfault
    exact (Except.error.inj hfault).symm

private theorem DataBinding.exists_error_iff (binding : DataBinding) :
    (∃ cause ∈ binding.findings, cause.level = .error) ↔ binding.IsMalformed := by
  constructor
  · rintro ⟨cause, hcause, hlevel⟩
    rcases List.mem_append.mp hcause with hcause | hcause
    · cases hparse : DataPath.parse binding.path with
      | ok path => simp [hparse] at hcause
      | error error =>
          obtain rfl : cause = error.cause := by simpa [hparse] using hcause
          refine ⟨?_, error, hparse⟩
          by_contra hgiven
          have hempty := (DataPath.fault_eq_empty_iff hparse).mpr (by simpa using hgiven)
          rw [DataPathError.cause, if_pos hempty] at hlevel
          cases hlevel
    · obtain ⟨name, -, rfl⟩ := List.mem_map.mp hcause
      cases hlevel
  · rintro ⟨⟨c, hmem, hblank⟩, error, hparse⟩
    refine ⟨error.cause, List.mem_append_left _ (by simp [hparse]), ?_⟩
    have hgiven : error.fault ≠ .empty := fun hempty => by
      have hall := (DataPath.fault_eq_empty_iff hparse).mp hempty c hmem
      rw [hblank] at hall
      cases hall
    rw [DataPathError.cause, if_neg hgiven]
    rfl

private theorem Condition.exists_error_iff (condition : Condition) :
    (∃ cause ∈ condition.findings, cause.level = .error) ↔ condition.HasMalformedOperand := by
  constructor
  · rintro ⟨cause, hcause, hlevel⟩
    rcases List.mem_append.mp hcause with hcause | hcause
    · split at hcause
      · obtain rfl := List.mem_singleton.mp hcause
        cases hlevel
      · cases hcause
    · cases hparse : Test.parse condition.expression with
      | ok test => simp [hparse] at hcause
      | error error =>
          obtain rfl : cause = error.cause := by simpa [hparse] using hcause
          have hread := (Test.parse_eq_error_iff.mp hparse).2
          obtain ⟨expression, fault⟩ := error
          cases fault with
          | invalidOperand cause =>
              obtain ⟨operand, hoperand, hpath⟩ := Test.readChars_eq_invalidOperand_iff.mp hread
              exact ⟨operand, hoperand, cause, hpath⟩
          | _ => cases hlevel
  · rintro ⟨operand, hoperand, cause, hpath⟩
    have hread := Test.readChars_eq_invalidOperand_iff.mpr ⟨operand, hoperand, hpath⟩
    have hparse : Test.parse condition.expression =
        .error ⟨condition.expression, .invalidOperand cause⟩ :=
      Test.parse_eq_error_iff.mpr ⟨rfl, hread⟩
    exact ⟨_, List.mem_append_right _ (by rw [hparse]; exact List.mem_singleton_self _), rfl⟩

/-! ## Elements at fault -/

inductive Element.Binds : Element → DataBinding → Prop
  | text {attributes : Attributes} {content : Option String} {binding : DataBinding} :
      Binds (.leaf (.text attributes content (some binding))) binding
  | image {attributes : Attributes} {picture : Picture} {binding : DataBinding}
      (hbinding : picture.binding = some binding) :
      Binds (.leaf (.image attributes picture)) binding
  | table {attributes : Attributes} {columns : List Column} {binding : DataBinding} :
      Binds (.leaf (.table attributes columns binding)) binding
  | column {attributes : Attributes} {columns : List Column} {rows binding : DataBinding}
      {column : Column} (hcolumn : column ∈ columns) (hbinding : column.binding = some binding) :
      Binds (.leaf (.table attributes columns rows)) binding
  | repeater {style : Option Object} {condition : Option Condition} {binding : DataBinding}
      {children : List Element} :
      Binds (.container (.repeater style condition binding) children) binding

/-- The element is unknown, or a binding or the condition of it is at fault. -/
inductive Element.Flawed : Element → Prop
  | unknown {fields : Object} : Flawed (.leaf (.unknown fields))
  | binding {element : Element} {binding : DataBinding} (hbinding : element.Binds binding)
      (hmalformed : binding.IsMalformed) : Flawed element
  | condition {element : Element} {condition : Condition}
      (hcondition : element.condition = some condition)
      (hmalformed : condition.HasMalformedOperand) : Flawed element

namespace Element

variable {path : ElementPath} {element : Element}

private theorem Binds.mem_ownVisits {binding : DataBinding} (h : element.Binds binding) :
    .binding path binding ∈ element.ownVisits path := by
  refine Element.mem_ownVisits.mpr (.inr (.inr ?_))
  cases h with
  | text => exact List.mem_singleton_self _
  | image hbinding => simp [shape, Shape.visits, Leaf.visits, hbinding]
  | table => exact List.mem_cons_self
  | @column _ _ _ _ column hcolumn hbinding =>
      refine List.mem_cons_of_mem _ (List.mem_flatMap.mpr ⟨column, hcolumn, ?_⟩)
      simp [Column.visits, hbinding]
  | repeater => exact List.mem_singleton_self _

private theorem binds_of_mem_leaf {kind : Leaf} {binding : DataBinding}
    (h : .binding path binding ∈ kind.visits path) : Binds (.leaf kind) binding := by
  cases kind with
  | text attributes content bound =>
      obtain ⟨bound, hbound, heq⟩ := List.mem_map.mp h
      cases heq
      rw [Option.mem_toList.mp hbound]
      exact .text
  | image attributes picture =>
      obtain ⟨bound, hbound, heq⟩ := List.mem_map.mp h
      cases heq
      exact .image (Option.mem_toList.mp hbound)
  | table attributes columns bound =>
      rcases List.mem_cons.mp h with heq | h
      · cases heq
        exact .table
      · obtain ⟨column, hcolumn, h⟩ := List.mem_flatMap.mp h
        rcases List.mem_cons.mp h with heq | h
        · cases heq
        · obtain ⟨bound, hbound, heq⟩ := List.mem_map.mp h
          cases heq
          exact .column hcolumn (Option.mem_toList.mp hbound)
  | divider attributes rule => cases h
  | unknown fields => cases List.mem_singleton.mp h

private theorem binds_of_mem_ownVisits {binding : DataBinding}
    (h : .binding path binding ∈ element.ownVisits path) : element.Binds binding := by
  rcases mem_ownVisits.mp h with h | ⟨_, _, h⟩ | h
  · cases h
  · cases h
  · cases element with
    | leaf kind => exact binds_of_mem_leaf h
    | container kind children =>
        cases kind with
        | repeater style condition bound =>
            cases List.mem_singleton.mp h
            exact .repeater
        | _ => cases h

private theorem eq_unknown_of_mem_ownVisits {fields : Object}
    (h : .unknown path fields ∈ element.ownVisits path) : element = .leaf (.unknown fields) := by
  rcases mem_ownVisits.mp h with h | ⟨_, _, h⟩ | h
  · cases h
  · cases h
  · cases element with
    | container kind children => cases kind <;> simp [shape, Shape.visits, Container.visits] at h
    | leaf kind => cases kind <;> simp_all [shape, Shape.visits, Leaf.visits, Column.visits]

private theorem flawed_iff :
    element.Flawed ↔
      ∃ visit ∈ element.ownVisits path, ∃ cause ∈ visit.causes, cause.level = .error := by
  constructor
  · intro h
    cases h with
    | @unknown fields =>
        have hvisit : .unknown path fields ∈ Element.ownVisits path (.leaf (.unknown fields)) :=
          mem_ownVisits.mpr (.inr (.inr (List.mem_singleton_self _)))
        exact ⟨_, hvisit, _, List.mem_singleton_self _, rfl⟩
    | @binding _ bound hbinding hmalformed =>
        exact ⟨.binding path bound, hbinding.mem_ownVisits, bound.exists_error_iff.mpr hmalformed⟩
    | @condition _ shown hcondition hmalformed =>
        exact ⟨.condition path shown, mem_ownVisits.mpr (.inr (.inl ⟨shown, hcondition, rfl⟩)),
          shown.exists_error_iff.mpr hmalformed⟩
  · rintro ⟨visit, hvisit, herror⟩
    obtain rfl := path_of_mem_ownVisits hvisit
    cases visit with
    | element path visited =>
        obtain ⟨cause, hcause, hlevel⟩ := herror
        rw [Visit.causes] at hcause
        split at hcause
        · cases List.mem_singleton.mp hcause
          cases hlevel
        · cases hcause
    | condition path shown =>
        exact .condition (condition_of_mem_ownVisits hvisit) (shown.exists_error_iff.mp herror)
    | binding path bound =>
        exact .binding (binds_of_mem_ownVisits hvisit) (bound.exists_error_iff.mp herror)
    | column path column =>
        obtain ⟨cause, hcause, -⟩ := herror
        cases hcause
    | unknown path fields =>
        rw [eq_unknown_of_mem_ownVisits hvisit]
        exact .unknown

end Element

private theorem FindingCause.ne_duplicateId_of_error {cause : FindingCause}
    (h : cause.level = .error)
    (id : String) (first : ElementPath) : cause ≠ .duplicateId id first := by
  rintro rfl
  cases h

theorem Validator.exists_error_iff (validator : Validator) (template : Element) :
    (∃ finding ∈ (validator.validate template).1, finding.level = .error) ↔
      ∃ path element, template.find? path = some element ∧ element.Flawed := by
  constructor
  · rintro ⟨⟨path, cause⟩, hmem, hlevel⟩
    obtain ⟨element, hfind, visit, hvisit, hmem⟩ :=
      (mem_findings_validate (FindingCause.ne_duplicateId_of_error hlevel) validator
        template).mp hmem
    exact ⟨path, element, hfind, Element.flawed_iff.mpr ⟨visit, hvisit, cause, hmem, hlevel⟩⟩
  · rintro ⟨path, element, hfind, hflawed⟩
    obtain ⟨visit, hvisit, cause, hmem, hlevel⟩ := Element.flawed_iff.mp hflawed
    exact ⟨⟨path, cause⟩, (mem_findings_validate (FindingCause.ne_duplicateId_of_error hlevel)
      validator template).mpr ⟨element, hfind, visit, hvisit, hmem⟩, hlevel⟩

end DocTemplate

import DocTemplate.Proofs.Render.Presentation

/-!
# Tables and repeaters

A table is filled by rows and columns, and a repeater shows its children once for each item.  With a
text for each column the two show the same: they take the same items, and each item is the scope of
its row as it is that of its instance.
-/

namespace DocTemplate

/-! ## Texts for columns -/

/-- A text without a condition that has the binding of the column, and is empty where the column has
none. -/
inductive Column.ShownBy (column : Column) : Element → Prop
  | text {attributes : Attributes} {content : Option String}
      (hcondition : attributes.condition = none)
      (hempty : column.binding = none → content.getD "" = "") :
      Column.ShownBy column (.leaf (.text attributes content column.binding))

def Column.causes (column : Column) : List DiagnosticCause :=
  column.binding.toList.flatMap DataBinding.causes

/-- The cells of a table, row by row. -/
def Rendered.cells : Rendered → List String
  | .figure (.table _ _ _ rows) => rows.flatten
  | _ => []

namespace RenderSetting

open Rendered (textsOf textsOf_eq figuresOf)

variable {setting : RenderSetting} {scope : Option Json} {columns : List Column}
  {children : List Element}

/-! ## Texts -/

private theorem textsOf_repeated (style : Option Object) (instances : List (List Rendered)) :
    textsOf (repeated style instances) = instances.flatMap textsOf := by
  rw [textsOf_eq, figuresOf_repeated, List.flatMap_assoc]
  simp only [← textsOf_eq]

private theorem picture_of_shownBy {column : Column} {child : Element} (h : column.ShownBy child) :
    ∃ figure, setting.picture scope child = some (.figure figure) ∧
      figure.texts = [setting.textOr scope none column.binding] := by
  obtain @⟨attributes, content, hcondition, hempty⟩ := h
  have hshown : (Element.leaf (.text attributes content column.binding)).isShown setting.view
      scope = true := by
    change attributes.condition.all _ = true
    rw [hcondition]
    rfl
  have htext : setting.textOr scope content column.binding =
      setting.textOr scope none column.binding := by
    cases hbinding : column.binding with
    | none => exact hempty hbinding
    | some binding => rfl
  refine ⟨_, by rw [picture, if_pos hshown, leafNode], ?_⟩
  rw [← htext]
  rfl

private theorem textsOf_pictures (h : List.Forall₂ Column.ShownBy columns children) :
    textsOf (setting.pictures scope children) =
      columns.map fun column => setting.textOr scope none column.binding := by
  induction h with
  | nil => rfl
  | cons hchild _ ih =>
      obtain ⟨figure, hpicture, htexts⟩ := picture_of_shownBy hchild
      rw [pictures, hpicture, List.map_cons, ← ih, ← List.singleton_append, ← htexts]
      rfl

theorem cells_rowsOf (h : List.Forall₂ Column.ShownBy columns children) (binding : DataBinding)
    (style : Option Object) :
    (setting.rowsOf scope columns binding).flatten =
      textsOf (repeated style (((binding.itemsIn setting.view scope).map some).map fun inner =>
        setting.pictures inner children)) := by
  rw [textsOf_repeated, List.map_map, List.flatMap_map, rowsOf, ← List.flatMap_def]
  exact congrArg List.flatten (List.map_congr_left fun item _ => (textsOf_pictures h).symm)

/-! ## Causes -/

theorem map_cause_diagnosticsAt (path : ElementPath) (causes : List DiagnosticCause) :
    (DiagnosticCause.diagnosticsAt path causes).map (·.cause) = causes := by
  rw [DiagnosticCause.diagnosticsAt, List.map_map]
  exact List.map_id causes

theorem map_cause_kept (diagnostics : List Diagnostic) :
    (setting.kept diagnostics).map (·.cause) =
      if setting.options.collectDiagnostics then diagnostics.map (·.cause) else [] := by
  rw [kept]
  split <;> rfl

private theorem causes_of_shownBy {column : Column} {child : Element} (h : column.ShownBy child)
    (view : View) (path : ElementPath) (scope : Option Json) :
    (reportOf view (child.instancesAt view path scope)).map (·.cause) = column.causes := by
  obtain @⟨attributes, content, hcondition, -⟩ := h
  have hnone : (Element.leaf (.text attributes content column.binding)).condition = none :=
    hcondition
  rw [reportOf_instancesAt, Element.isShown, hnone]
  simp [Element.innerScopes, Instance.contentCauses, Leaf.causes, map_cause_diagnosticsAt,
    Column.causes]

private theorem causes_of_children (h : List.Forall₂ Column.ShownBy columns children) (view : View)
    (path : ElementPath) (index : Nat) (scope : Option Json) :
    (reportOf view (Element.childInstances view path index scope children)).map (·.cause) =
      columns.flatMap Column.causes := by
  induction h generalizing index with
  | nil => rfl
  | cons hchild _ ih =>
      rw [Element.childInstances, reportOf_append, List.map_append, causes_of_shownBy hchild, ih,
        List.flatMap_cons]

theorem causes_of_instances (element : Element) (view : View) (scope : Option Json) :
    (reportOf view (element.instances view scope)).map (·.cause) =
      element.condition.toList.flatMap Condition.causes ++
        if element.isShown view scope then
          Instance.contentCauses ⟨.root, scope, element⟩ view ++
            (element.innerScopes view scope).flatMap fun inner =>
              (reportOf view (Element.childInstances view .root 0 inner element.children)).map
                (·.cause)
        else [] := by
  rw [Element.instances, reportOf_instancesAt, List.map_append, map_cause_diagnosticsAt]
  split
  · rw [List.map_append, map_cause_diagnosticsAt, List.map_flatMap]
  · rfl

/-- What the condition gives cause for, and then the columns once for each item. -/
def repeatedCauses (view : View) (scope : Option Json) (condition : Option Condition)
    (columns : List Column) (binding : DataBinding) : List DiagnosticCause :=
  condition.toList.flatMap Condition.causes ++
    if condition.all (·.holds view scope) then
      (binding.itemsIn view scope).flatMap fun _ => columns.flatMap Column.causes
    else []

theorem causes_of_table (view : View) (scope : Option Json) (attributes : Attributes)
    (columns : List Column) (binding : DataBinding) :
    (reportOf view ((Element.leaf (.table attributes columns binding)).instances view scope)).map
        (·.cause) =
      repeatedCauses view scope attributes.condition columns binding := by
  rw [causes_of_instances, Element.innerScopes, List.flatMap_nil, List.append_nil]
  rfl

theorem causes_of_repeater (h : List.Forall₂ Column.ShownBy columns children) (view : View)
    (scope : Option Json) (style : Option Object) (condition : Option Condition)
    (binding : DataBinding) :
    (reportOf view ((Element.container (.repeater style condition binding) children).instances view
        scope)).map (·.cause) =
      repeatedCauses view scope condition columns binding := by
  rw [causes_of_instances]
  simp only [Element.children, causes_of_children h, Element.innerScopes, List.flatMap_map]
  rfl

end RenderSetting

namespace Renderer

open RenderSetting (causes_of_table causes_of_repeater cells_rowsOf map_cause_kept)

/-- A table shows, row by row, the texts that a repeater over the same items shows with a text for
each column, and the same is found wrong with either, once for each item and in the same order; or
the condition that they share hides both. -/
theorem tables_agree_with_repeaters (view : View) (tokens : DesignTokens) (options : RenderOptions)
    (scope : Option Json) (attributes : Attributes) (style : Option Object)
    (binding : DataBinding) {columns : List Column} {children : List Element}
    (h : List.Forall₂ Column.ShownBy columns children) :
    let table : Element := .leaf (.table attributes columns binding)
    let repeater : Element := .container (.repeater style attributes.condition binding) children
    let renders (template : Element) := (start view tokens options).render template scope
    (renders table).1.map Rendered.cells = (renders repeater).1.map Rendered.texts ∧
      (renders table).2.takeDiagnostics.1.map (·.cause) =
        (renders repeater).2.takeDiagnostics.1.map (·.cause) := by
  intro table repeater renders
  have hshown : table.isShown view scope = repeater.isShown view scope := rfl
  constructor
  · simp only [renders, fst_render_start]
    rw [RenderSetting.picture, RenderSetting.picture, hshown]
    split
    · exact congrArg some (cells_rowsOf h binding style)
    · rfl
  · simp only [renders, diagnostics_render_start, map_cause_kept, table, repeater, causes_of_table,
      causes_of_repeater h]

/-- The condition is malformed and inverted, so both are shown, and the formatter is unknown in every
row. -/
theorem tables_agree_with_repeaters_malformed :
    let price : Column := ⟨"Price", none, none, some ⟨"price", some "euro", some "-"⟩⟩
    let note : Column := ⟨"Note", none, none, none⟩
    let texts : List Element :=
      [.leaf (.text .none none price.binding), .leaf (.text .none none note.binding)]
    let view : View := ⟨fun _ => .list [.object [("price", .text "12")], .null], []⟩
    let attributes : Attributes := ⟨none, none, some (.inverted "a ~ b")⟩
    let table : Element := .leaf (.table attributes [price, note] (.ofPath "items"))
    let repeater : Element :=
      .container (.repeater none (some (.inverted "a ~ b")) (.ofPath "items")) texts
    let renders (template : Element) := (start view .empty ⟨"", true⟩).render template none
    List.Forall₂ Column.ShownBy [price, note] texts ∧
      (renders table).1.map Rendered.cells = some ["12", "", "-", ""] ∧
      (renders repeater).1.map Rendered.texts = some ["12", "", "-", ""] ∧
      (renders repeater).2.takeDiagnostics.1.map (·.cause) =
        [.malformedCondition ⟨"a ~ b", .noOperator⟩, .unknownFormatter "euro",
          .unknownFormatter "euro"] := by
  intro price note texts view attributes table repeater renders
  have htexts : List.Forall₂ Column.ShownBy [price, note] texts :=
    .cons (.text rfl fun _ => rfl) (.cons (.text rfl fun _ => rfl) .nil)
  have hcells : (renders table).1.map Rendered.cells = some ["12", "", "-", ""] := by
    rw [show (renders table).1 = _ from fst_render_start ..]
    rfl
  have hcauses : (renders table).2.takeDiagnostics.1.map (·.cause) =
      [.malformedCondition ⟨"a ~ b", .noOperator⟩, .unknownFormatter "euro",
        .unknownFormatter "euro"] := by
    rw [show (renders table).2.takeDiagnostics.1 = _ from diagnostics_render_start ..]
    decide +kernel
  obtain ⟨hshown, hreported⟩ := tables_agree_with_repeaters view .empty ⟨"", true⟩ none attributes
    none (.ofPath "items") htexts
  exact ⟨htexts, hcells, hshown.symm.trans hcells, hreported.symm.trans hcauses⟩

end Renderer

end DocTemplate

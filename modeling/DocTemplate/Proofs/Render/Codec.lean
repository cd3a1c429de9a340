import DocTemplate.Proofs.Render.Figures
import DocTemplate.Proofs.Template.Order

/-!
# Rendered nodes written and read

A rendered node is read back as it was, from its fields as they are written and from its fields in
order, as long as its floats are finite.  The parts of a node own some names of fields each, and the
children of a box stand behind them.
-/

namespace DocTemplate

open Json (required? optional? defaulted? required?_of_filter optional?_of_filter
  defaulted?_of_filter required?_congr optional?_congr defaulted?_congr Avoids AgreeOn agreeOn_back
  agreeOn_front Stable StableFields InOrder inOrder_sortedFields stable_asText? stable_asBool?
  stable_asFloat? stable_asObject? stable_choice?)

/-! ## Table headers and rows -/

private theorem TableHeader.ofJson?_toJson (header : TableHeader) :
    ofJson? header.toJson = some header := by
  obtain ⟨label, width, align⟩ := header
  rw [toJson, ofJson?, Json.asRecord?]
  simp only [Option.bind_eq_bind, Option.bind_some]
  rw [required?_of_filter (.text label) (by simp),
    optional?_of_filter .text width (by simp) rfl fun _ _ => rfl,
    optional?_of_filter (fun align => .text align.name) align (by simp) rfl
      fun align _ => align.ofJson?_name]
  rfl

private theorem headersOfJson?_toJson (headers : List TableHeader) :
    headersOfJson? (.list (headers.map TableHeader.toJson)) = some headers :=
  mapM_map_eq_some fun header _ => header.ofJson?_toJson

private theorem rowsOfJson?_rowsToJson (rows : List (List String)) :
    rowsOfJson? (rowsToJson rows) = some rows :=
  mapM_map_eq_some fun _ _ => mapM_map_eq_some fun _ _ => rfl

/-! ## Parts of a node -/

def RenderedFlow.names : List String := ["direction", "gap", "align", "justify", "wrap"]

private theorem RenderedFlow.ofFields?_congr {first second : List (String × Json)}
    (h : AgreeOn names first second) : ofFields? first = ofFields? second := by
  rw [ofFields?, ofFields?, required?_congr (h "direction" (by simp [names])),
    optional?_congr (h "gap" (by simp [names])), optional?_congr (h "align" (by simp [names])),
    optional?_congr (h "justify" (by simp [names])), defaulted?_congr (h "wrap" (by simp [names]))]

private theorem RenderedFlow.ofFields?_fields (flow : RenderedFlow)
    (hgap : ∀ x ∈ flow.gap, x.isFinite = true) : ofFields? flow.fields = some flow := by
  rw [ofFields?,
    required?_of_filter (.text flow.direction.name) (by simp [fields]),
    flow.direction.ofJson?_name,
    optional?_of_filter Json.ofFloat flow.gap (by simp [fields]) rfl
      fun x hx => Json.asFloat?_ofFloat (hgap x hx),
    optional?_of_filter (fun align => .text align.name) flow.align (by simp [fields]) rfl
      fun align _ => align.ofJson?_name,
    optional?_of_filter (fun justify => .text justify.name) flow.justify (by simp [fields]) rfl
      fun justify _ => justify.ofJson?_name,
    defaulted?_of_filter (.bool flow.wrap) (by simp [fields])]
  rfl

def RenderedPicture.names : List String := ["src", "alt", "objectFit", "aspectRatio"]

private theorem RenderedPicture.ofFields?_congr {first second : List (String × Json)}
    (h : AgreeOn names first second) : ofFields? first = ofFields? second := by
  rw [ofFields?, ofFields?, required?_congr (h "src" (by simp [names])),
    defaulted?_congr (h "alt" (by simp [names])), optional?_congr (h "objectFit" (by simp [names])),
    optional?_congr (h "aspectRatio" (by simp [names]))]

private theorem RenderedPicture.ofFields?_fields (picture : RenderedPicture)
    (hratio : ∀ x ∈ picture.aspectRatio, x.isFinite = true) :
    ofFields? picture.fields = some picture := by
  rw [ofFields?,
    required?_of_filter (.text picture.src) (by simp [fields]),
    defaulted?_of_filter (.text picture.alt) (by simp [fields]),
    optional?_of_filter (fun fit => .text fit.name) picture.objectFit (by simp [fields]) rfl
      fun fit _ => fit.ofJson?_name,
    optional?_of_filter Json.ofFloat picture.aspectRatio (by simp [fields]) rfl
      fun x hx => Json.asFloat?_ofFloat (hratio x hx)]
  rfl

theorem identityOfFields?_identified (name : String) (id : Option String) (style : Object)
    {back : List (String × Json)} (hback : Avoids ["id", "style"] back) :
    identityOfFields? (identified name id style ++ back) = some (id, style) := by
  have hagree : AgreeOn ["id", "style"] (identified name id style ++ back)
      (identified name id style) := agreeOn_front hback
  rw [identityOfFields?, optional?_congr (hagree "id" (by simp)),
    defaulted?_congr (hagree "style" (by simp)),
    optional?_of_filter .text id (by simp [identified]) rfl fun _ _ => rfl,
    defaulted?_of_filter style.toJson (by simp [identified]), Json.asObject?_toJson]
  rfl

/-! ## Nodes without children -/

def Box.floats : Box → List Binary64
  | .stack _ _ flow => flow.gap.toList
  | .grid _ _ cells => cells.gap.toList
  | _ => []

def Figure.floats : Figure → List Binary64
  | .image _ _ picture => picture.aspectRatio.toList
  | .divider _ _ thickness _ => [thickness]
  | _ => []

def Rendered.floats : Rendered → List Binary64
  | .box kind _ => kind.floats
  | .figure kind => kind.floats

namespace Rendered

private theorem kindOfFields?_box (kind : Box) (hfinite : ∀ x ∈ kind.floats, x.isFinite = true)
    (children : Json) :
    kindOfFields? kind.name (kind.fields ++ [("children", children)]) = some (.inl kind) := by
  cases kind with
  | frame id style pageBreak =>
      rw [Box.name, kindOfFields?, Box.fields, List.append_assoc,
        identityOfFields?_identified _ _ _ (by simp),
        defaulted?_of_filter (.bool pageBreak) (by simp [identified])]
      rfl
  | stack id style flow =>
      have hflow : RenderedFlow.ofFields?
          (identified "Stack" id style ++ (flow.fields ++ [("children", children)])) = some flow :=
        (RenderedFlow.ofFields?_congr ((agreeOn_back _
          (by simp [identified, RenderedFlow.names])).trans
            (agreeOn_front (by simp [RenderedFlow.names])))).trans
          (flow.ofFields?_fields (by simpa [Box.floats] using hfinite))
      rw [Box.name, kindOfFields?, Box.fields, List.append_assoc,
        identityOfFields?_identified _ _ _ (by simp [RenderedFlow.fields]), hflow]
      rfl
  | grid id style cells =>
      have hcells : Cells.ofFields?
          (identified "Grid" id style ++ (cells.fields ++ [("children", children)])) = some cells :=
        (Cells.ofFields?_congr ((agreeOn_back _ (by simp [identified, Cells.names])).trans
            (agreeOn_front (by simp [Cells.names])))).trans
          (cells.ofFields?_fields (by simpa [Box.floats] using hfinite))
      rw [Box.name, kindOfFields?, Box.fields, List.append_assoc,
        identityOfFields?_identified _ _ _ (by simp [Cells.fields]), hcells]
      rfl
  | fragment => rw [Box.name, kindOfFields?]

private theorem kindOfFields?_figure (kind : Figure)
    (hfinite : ∀ x ∈ kind.floats, x.isFinite = true) :
    kindOfFields? kind.name kind.fields = some (.inr kind) := by
  cases kind with
  | text id style content =>
      rw [Figure.name, kindOfFields?, Figure.fields, identityOfFields?_identified _ _ _ (by simp),
        required?_of_filter (.text content) (by simp [identified])]
      rfl
  | image id style picture =>
      have hpicture : RenderedPicture.ofFields?
          (identified "Image" id style ++ picture.fields) = some picture :=
        (RenderedPicture.ofFields?_congr (agreeOn_back _
          (by simp [identified, RenderedPicture.names]))).trans
          (picture.ofFields?_fields (by simpa [Figure.floats] using hfinite))
      rw [Figure.name, kindOfFields?, Figure.fields,
        identityOfFields?_identified _ _ _ (by simp [RenderedPicture.fields]), hpicture]
      rfl
  | table id style headers rows =>
      rw [Figure.name, kindOfFields?, Figure.fields, identityOfFields?_identified _ _ _ (by simp),
        required?_of_filter (.list (headers.map TableHeader.toJson)) (by simp [identified]),
        headersOfJson?_toJson,
        required?_of_filter (rowsToJson rows) (by simp [identified]), rowsOfJson?_rowsToJson]
      rfl
  | divider id style thickness color =>
      have hthickness : thickness.isFinite = true := hfinite thickness (by simp [Figure.floats])
      rw [Figure.name, kindOfFields?, Figure.fields, identityOfFields?_identified _ _ _ (by simp),
        required?_of_filter (Json.ofFloat thickness) (by simp [identified]),
        Json.asFloat?_ofFloat hthickness,
        optional?_of_filter .text color (by simp [identified]) rfl fun _ _ => rfl]
      rfl

theorem filter_type_box (kind : Box) (children : Json) :
    (kind.fields ++ [("children", children)]).filter (·.1 == "type") =
      [("type", .text kind.name)] := by
  cases kind <;> simp [Box.fields, Box.name, identified, RenderedFlow.fields, Cells.fields]

theorem filter_type_figure (kind : Figure) :
    kind.fields.filter (·.1 == "type") = [("type", .text kind.name)] := by
  cases kind <;> simp [Figure.fields, Figure.name, identified, RenderedPicture.fields]

private theorem filter_children_box (kind : Box) (children : Json) :
    (kind.fields ++ [("children", children)]).filter (·.1 == "children") =
      [("children", children)] := by
  cases kind <;> simp [Box.fields, identified, RenderedFlow.fields, Cells.fields]

/-! ## Trees -/

@[elab_as_elim]
theorem inductionOnChildren {motive : Rendered → Prop}
    (step : ∀ node, (∀ child ∈ node.children, motive child) → motive node) :
    (node : Rendered) → motive node
  | .figure kind => step (.figure kind) fun _ hchild => nomatch hchild
  | .box kind children => step (.box kind children) fun child _ => inductionOnChildren step child
termination_by node => sizeOf node
decreasing_by
  have hlt : sizeOf child < sizeOf children := List.sizeOf_lt_of_mem ‹_›
  rw [box.sizeOf_spec]
  omega

def Finite (node : Rendered) : Prop := ∀ below ∈ node.nodes, ∀ x ∈ below.floats, x.isFinite = true

private theorem Finite.floats {node : Rendered} (h : node.Finite) :
    ∀ x ∈ node.floats, x.isFinite = true :=
  h node (by simp [nodes_eq])

private theorem Finite.child {node child : Rendered} (h : node.Finite)
    (hchild : child ∈ node.children) :
    child.Finite := by
  intro below hbelow
  apply h
  rw [nodes_eq, nodesOf_eq_flatMap]
  exact List.mem_cons_of_mem node (List.mem_flatMap.mpr ⟨child, hchild, hbelow⟩)

private theorem toJsons_eq_map (children : List Rendered) :
    toJsons children = children.map toJson := by
  induction children with
  | nil => rfl
  | cons child rest ih => rw [toJsons, ih, List.map_cons]

theorem ofJsons?_eq_mapM (items : List Json) : ofJsons? items = items.mapM ofInnerJson? := by
  induction items with
  | nil => rfl
  | cons item rest ih =>
      rw [ofJsons?, List.mapM_cons, ih]
      cases ofInnerJson? item with
      | none => rfl
      | some node => cases rest.mapM ofInnerJson? <;> rfl

end Rendered

/-! ## Reading by the name of the type -/

/-- The name of the type and the fields of what is read as a node. -/
def Json.named? (value : Json) : Option (String × List (String × Json)) :=
  value.typed? Rendered.typeName? Rendered.keys

namespace Rendered

private theorem nodup_keys (name : String) : (keys name).Nodup := by
  rw [keys.eq_def]
  split <;> decide

private theorem childrenOfFields?_eq (fields : List (String × Json)) :
    childrenOfFields? fields = required? childrenOfJson? fields "children" := by
  rw [Json.required?_eq_elim]
  exact Json.searchFields_eq rfl (fun _ _ _ => by rw [childrenOfFields?]) fields

private theorem childrenOfItems?_eq {keys : List String} (hkeys : keys.Nodup) (items : List Json) :
    childrenOfItems? keys items = required? childrenOfJson? (keys.zip items) "children" := by
  rw [Json.required?_eq_elim]
  refine Json.searchItems_eq (fun _ => by rw [childrenOfItems?]) (fun items => ?_)
    (fun _ _ _ _ => by rw [childrenOfItems?]) hkeys items
  cases items <;> rw [childrenOfItems?]

theorem ofInnerJson?_eq (value : Json) :
    ofInnerJson? value =
      value.named?.bind fun named => (kindOfFields? named.1 named.2).bind
        (holding? fun _ => required? childrenOfJson? named.2 "children") := by
  cases value with
  | object fields =>
      rw [ofInnerJson?, Json.named?, Json.typed?, childrenOfFields?_eq]
      cases required? typeName? fields "type" <;> rfl
  | list items =>
      cases items with
      | nil => rfl
      | cons type items =>
          rw [ofInnerJson?, Json.named?, Json.typed?]
          cases typeName? type with
          | none => rfl
          | some name =>
              simp only [Option.bind_eq_bind, Option.bind_some,
                childrenOfItems?_eq (nodup_keys name)]
              cases hfields : Json.positional? (keys name) items with
              | none => rfl
              | some fields => rw [← Json.eq_zip_of_positional? hfields]; rfl
  | _ => rfl

private theorem named?_of_filter {name : String} {fields : List (String × Json)}
    (h : fields.filter (·.1 == "type") = [("type", .text name)]) :
    (Json.object fields).named? = some (name, fields) := by
  rw [Json.named?, Json.typed?, required?_of_filter (.text name) h]
  rfl

private theorem ofInnerJson?_toJson {node : Rendered} (h : node.Finite) :
    ofInnerJson? node.toJson = some node := by
  induction node using inductionOnChildren with
  | step node ih =>
      cases node with
      | figure kind =>
          rw [toJson, ofInnerJson?_eq, named?_of_filter (filter_type_figure kind), Option.bind_some,
            kindOfFields?_figure kind h.floats]
          rfl
      | box kind children =>
          have hitems : ofJsons? (toJsons children) = some children := by
            rw [ofJsons?_eq_mapM, toJsons_eq_map]
            exact mapM_map_eq_some fun child hchild => ih child hchild (h.child hchild)
          rw [toJson, ofInnerJson?_eq, named?_of_filter (filter_type_box kind _), Option.bind_some,
            kindOfFields?_box kind h.floats, Option.bind_some,
            required?_of_filter _ (filter_children_box kind _)]
          exact congrArg (Option.map _) hitems

private theorem statesName_toJson (node : Rendered) : statesName node.toJson = true := by
  cases node with
  | figure kind =>
      rw [toJson, statesName, required?_of_filter (.text kind.name) (filter_type_figure kind)]
      rfl
  | box kind children =>
      rw [toJson, statesName, required?_of_filter (.text kind.name) (filter_type_box kind _)]
      rfl

theorem ofJson?_toJson {node : Rendered} (h : node.Finite) : ofJson? node.toJson = some node := by
  rw [ofJson?, if_pos (statesName_toJson node), ofInnerJson?_toJson h]

/-! ## Fields in order -/

end Rendered

private theorem TableHeader.stable_ofJson? : Stable ofJson? :=
  StableFields.stable keys <| stable_asText?.required?.bind fun _ =>
    stable_asText?.optional?.bind fun _ => (stable_choice? _ _).optional?.bind fun _ => .pure _

private theorem stable_headersOfJson? : Stable headersOfJson? := TableHeader.stable_ofJson?.list

private theorem stable_rowsOfJson? : Stable rowsOfJson? := stable_asText?.list.list

private theorem RenderedFlow.stable_ofFields? : StableFields ofFields? :=
  (stable_choice? _ _).required?.bind fun _ => stable_asFloat?.optional?.bind fun _ =>
    (stable_choice? _ _).optional?.bind fun _ => (stable_choice? _ _).optional?.bind fun _ =>
      stable_asBool?.defaulted?.bind fun _ => .pure _

private theorem RenderedPicture.stable_ofFields? : StableFields ofFields? :=
  stable_asText?.required?.bind fun _ => stable_asText?.defaulted?.bind fun _ =>
    (stable_choice? _ _).optional?.bind fun _ => stable_asFloat?.optional?.bind fun _ => .pure _

private theorem stable_identityOfFields? : StableFields identityOfFields? :=
  stable_asText?.optional?.bind fun _ => stable_asObject?.defaulted?.bind fun _ => .pure _

namespace Rendered

private theorem stable_kindOfFields? (name : String) : StableFields (kindOfFields? name) := by
  have hidentified {α : Type} {read : List (String × Json) → Option α} {kind : _ → α → Box ⊕ Figure}
      (hread : StableFields read) :
      StableFields fun fields => (identityOfFields? fields).bind fun identity =>
        (read fields).bind fun given => some (kind identity given) :=
    stable_identityOfFields?.bind fun _ => hread.bind fun _ => .pure _
  have htable : StableFields fun fields => (identityOfFields? fields).bind fun identity =>
      (required? headersOfJson? fields "columns").bind fun headers =>
        (required? rowsOfJson? fields "rows").bind fun rows =>
          some (Sum.inr (Figure.table identity.1 identity.2 headers rows) : Box ⊕ Figure) :=
    stable_identityOfFields?.bind fun _ => stable_headersOfJson?.required?.bind fun _ =>
      stable_rowsOfJson?.required?.bind fun _ => .pure _
  have hdivider : StableFields fun fields => (identityOfFields? fields).bind fun identity =>
      (required? Json.asFloat? fields "thickness").bind fun thickness =>
        (optional? Json.asText? fields "color").bind fun color =>
          some (Sum.inr (Figure.divider identity.1 identity.2 thickness color) : Box ⊕ Figure) :=
    stable_identityOfFields?.bind fun _ => stable_asFloat?.required?.bind fun _ =>
      stable_asText?.optional?.bind fun _ => .pure _
  intro fields ordered kind horder h
  rw [kindOfFields?.eq_def] at h ⊢
  split at h
  · exact hidentified stable_asBool?.defaulted? fields ordered kind horder h
  · exact hidentified RenderedFlow.stable_ofFields? fields ordered kind horder h
  · exact hidentified Cells.stable_ofFields? fields ordered kind horder h
  · exact h
  · exact hidentified stable_asText?.required? fields ordered kind horder h
  · exact hidentified RenderedPicture.stable_ofFields? fields ordered kind horder h
  · exact htable fields ordered kind horder h
  · exact hdivider fields ordered kind horder h
  · cases h

private theorem stable_typeName? : Stable typeName? := by
  intro value name h
  cases value with
  | text _ => exact h
  | number _ => exact h
  | _ => cases h

private theorem childrenOfJson?_sorted {value : Json} {children : List Rendered}
    (h : childrenOfJson? value = some children)
    (hread : ∀ item, ∀ child ∈ children, ofInnerJson? item = some child →
      ofInnerJson? item.sorted = some child) :
    childrenOfJson? value.sorted = some children := by
  cases value with
  | list items =>
      simp only [childrenOfJson?, ofJsons?_eq_mapM] at h
      simp only [Json.sorted, childrenOfJson?, ofJsons?_eq_mapM, Json.sortedItems_eq_map]
      exact Json.mapM_map_sorted h fun item _ child hchild => hread item child hchild
  | _ => cases h

private theorem stable_ofInnerJson? : Stable ofInnerJson? := by
  intro value node h
  induction node using inductionOnChildren generalizing value with
  | step node ih =>
      rw [ofInnerJson?_eq] at h ⊢
      obtain ⟨⟨name, fields⟩, hnamed, hread⟩ := Option.bind_eq_some_iff.mp h
      obtain ⟨kind, hkind, hholding⟩ := Option.bind_eq_some_iff.mp hread
      obtain ⟨ordered, hordered, horder⟩ := stable_typeName?.typed? hnamed
      rw [Json.named?, hordered, Option.bind_some,
        stable_kindOfFields? name fields ordered kind horder hkind, Option.bind_some]
      cases kind with
      | inr kind => exact hholding
      | inl kind =>
          obtain ⟨children, hchildren, rfl⟩ := Option.map_eq_some_iff.mp hholding
          refine Option.map_eq_some_iff.mpr ⟨children, horder.required? hchildren ?_, rfl⟩
          exact fun value hvalue => childrenOfJson?_sorted hvalue
            fun item child hchild => ih child hchild item

private theorem statesName_sorted {value : Json} (h : statesName value = true) :
    statesName value.sorted = true := by
  cases value with
  | object fields =>
      obtain ⟨name, hname⟩ := Option.isSome_iff_exists.mp h
      have hsorted : required? Json.asText? (Json.sortedFields fields) "type" = some name :=
        stable_asText?.required? fields _ name (inOrder_sortedFields fields) hname
      rw [Json.sorted, statesName, hsorted]
      rfl
  | list items =>
      match items, h with
      | .text _ :: _, _ => rfl
  | _ => cases h

theorem stable_ofJson? : Stable ofJson? := by
  intro value node h
  rw [ofJson?] at h ⊢
  split at h
  · next hstates => rw [if_pos (statesName_sorted hstates), stable_ofInnerJson? value node h]
  · cases h

end Rendered

end DocTemplate

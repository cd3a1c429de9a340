import DocTemplate.Template.Codec
import DocTemplate.Proofs.Json.Record

/-!
# Elements without their children, written and read

Every part of an element owns some names of fields.  A part is read back from its own fields, and
from any record in which these fields stand among fields of other names; so the fields of a tag are
read back whatever the children are.  Floats that are not finite are the only values that are lost.
-/

namespace DocTemplate

open Json (required? optional? defaulted? required?_of_filter optional?_of_filter
  defaulted?_of_filter required?_congr optional?_congr defaulted?_congr Avoids AgreeOn
  agreeOn_middle agreeOn_front agreeOn_back)

/-! ## Tags of shapes -/

def Shape.tag? : Shape → Option Tag
  | .container kind => some kind.tag
  | .leaf kind => kind.tag?

theorem Shape.isContainer_of_tag? {shape : Shape} {tag : Tag} (h : shape.tag? = some tag) :
    shape.isContainer = tag.isContainer := by
  cases shape with
  | container kind =>
      cases h
      cases kind <;> rfl
  | leaf kind =>
      cases kind <;> cases h <;> rfl

/-! ## Values -/

namespace Json

theorem asFloat?_ofFloat {x : Binary64} (h : x.isFinite = true) :
    (ofFloat x).asFloat? = some x := by
  rw [ofFloat, if_pos h]
  rfl

private theorem asUInt32?_ofNat (n : UInt32) : (ofNat n.toNat).asUInt32? = some n := by
  have hsize : (n.toNat : Int) < UInt32.size := Int.ofNat_lt.mpr n.toNat_lt
  rw [asUInt32?, ofNat, asNat?, if_pos ⟨Int.natCast_nonneg _, hsize⟩]
  simp

theorem asObject?_toJson (object : Object) : object.toJson.asObject? = some object := by
  rw [Object.toJson, asObject?, Object.ofFields_fields]

end Json

theorem mapM_map_eq_some {α β : Type} {read : β → Option α} {write : α → β} {items : List α}
    (h : ∀ item ∈ items, read (write item) = some item) :
    (items.map write).mapM read = some items := by
  induction items with
  | nil => rfl
  | cons item rest ih =>
      obtain ⟨hitem, hrest⟩ := List.forall_mem_cons.mp h
      simp [List.mapM_cons, hitem, ih hrest]

theorem Direction.ofJson?_name (direction : Direction) :
    ofJson? (.text direction.name) = some direction := by
  cases direction <;> rfl

theorem Align.ofJson?_name (align : Align) : ofJson? (.text align.name) = some align := by
  cases align <;> rfl

theorem Justify.ofJson?_name (justify : Justify) : ofJson? (.text justify.name) = some justify := by
  cases justify <;> rfl

theorem ObjectFit.ofJson?_name (fit : ObjectFit) : ofJson? (.text fit.name) = some fit := by
  cases fit <;> rfl

theorem ColumnAlign.ofJson?_name (align : ColumnAlign) :
    ofJson? (.text align.name) = some align := by
  cases align <;> rfl

/-! ## Bindings, conditions and columns -/

theorem DataBinding.ofJson?_toJson (binding : DataBinding) :
    ofJson? binding.toJson = some binding := by
  obtain ⟨path, formatter, fallback⟩ := binding
  rw [toJson, ofJson?, Json.asRecord?]
  simp only [Option.bind_eq_bind, Option.bind_some]
  rw [required?_of_filter (.text path) (by simp),
    optional?_of_filter .text formatter (by simp) rfl fun _ _ => rfl,
    optional?_of_filter .text fallback (by simp) rfl fun _ _ => rfl]
  rfl

theorem Condition.ofJson?_toJson (condition : Condition) :
    ofJson? condition.toJson = some condition := by
  obtain ⟨expression, invert⟩ := condition
  cases invert <;> rfl

private theorem Column.ofJson?_toJson (column : Column) : ofJson? column.toJson = some column := by
  obtain ⟨label, width, align, binding⟩ := column
  rw [toJson, ofJson?, Json.asRecord?]
  simp only [Option.bind_eq_bind, Option.bind_some]
  rw [required?_of_filter (.text label) (by simp),
    optional?_of_filter .text width (by simp) rfl fun _ _ => rfl,
    optional?_of_filter (fun align => .text align.name) align (by simp) rfl
      fun align _ => align.ofJson?_name,
    optional?_of_filter DataBinding.toJson binding (by simp) rfl
      fun binding _ => binding.ofJson?_toJson]
  rfl

private theorem columnsOfJson?_toJson (columns : List Column) :
    columnsOfJson? (.list (columns.map Column.toJson)) = some columns :=
  mapM_map_eq_some fun column _ => column.ofJson?_toJson

/-! ## Attributes -/

theorem Attributes.ofFields?_congr {first second : List (String × Json)}
    (h : AgreeOn names first second) : ofFields? first = ofFields? second := by
  rw [ofFields?, ofFields?, optional?_congr (h "id" (by simp [names])),
    optional?_congr (h "style" (by simp [names])),
    optional?_congr (h "condition" (by simp [names]))]

private theorem Attributes.ofFields?_fields (attributes : Attributes) :
    ofFields? attributes.fields = some attributes := by
  rw [ofFields?,
    optional?_of_filter .text attributes.id (by simp [fields]) rfl fun _ _ => rfl,
    optional?_of_filter Object.toJson attributes.style (by simp [fields]) rfl
      fun style _ => Json.asObject?_toJson style,
    optional?_of_filter Condition.toJson attributes.condition (by simp [fields]) rfl
      fun condition _ => condition.ofJson?_toJson]
  rfl

theorem Attributes.ofFields?_among (attributes : Attributes) (front : List (String × Json))
    {back : List (String × Json)} (hfront : Avoids names front) (hback : Avoids names back) :
    ofFields? (front ++ attributes.fields ++ back) = some attributes :=
  (ofFields?_congr (agreeOn_middle hfront hback)).trans attributes.ofFields?_fields

/-! ## Parts of one tag -/

theorem Flow.ofFields?_congr {first second : List (String × Json)}
    (h : AgreeOn names first second) : ofFields? first = ofFields? second := by
  rw [ofFields?, ofFields?, defaulted?_congr (h "direction" (by simp [names])),
    optional?_congr (h "gap" (by simp [names])), optional?_congr (h "align" (by simp [names])),
    optional?_congr (h "justify" (by simp [names])), optional?_congr (h "wrap" (by simp [names]))]

private theorem Flow.ofFields?_fields (flow : Flow) (hgap : ∀ x ∈ flow.gap, x.isFinite = true) :
    ofFields? flow.fields = some flow := by
  rw [ofFields?,
    defaulted?_of_filter (.text flow.direction.name) (by simp [fields]),
    flow.direction.ofJson?_name,
    optional?_of_filter Json.ofFloat flow.gap (by simp [fields]) rfl
      fun x hx => Json.asFloat?_ofFloat (hgap x hx),
    optional?_of_filter (fun align => .text align.name) flow.align (by simp [fields]) rfl
      fun align _ => align.ofJson?_name,
    optional?_of_filter (fun justify => .text justify.name) flow.justify (by simp [fields]) rfl
      fun justify _ => justify.ofJson?_name,
    optional?_of_filter .bool flow.wrap (by simp [fields]) rfl fun _ _ => rfl]
  rfl

theorem Cells.ofFields?_congr {first second : List (String × Json)}
    (h : AgreeOn names first second) : ofFields? first = ofFields? second := by
  rw [ofFields?, ofFields?, required?_congr (h "cols" (by simp [names])),
    optional?_congr (h "rows" (by simp [names])), optional?_congr (h "gap" (by simp [names]))]

theorem Cells.ofFields?_fields (cells : Cells) (hgap : ∀ x ∈ cells.gap, x.isFinite = true) :
    ofFields? cells.fields = some cells := by
  have hrows : optional? Json.asUInt32? cells.fields "rows" = some cells.rows := by
    refine optional?_of_filter (fun rows => .ofNat rows.toNat) cells.rows (by simp [fields]) rfl ?_
    exact fun rows _ => Json.asUInt32?_ofNat rows
  rw [ofFields?,
    required?_of_filter (.ofNat cells.cols.toNat) (by simp [fields]), Json.asUInt32?_ofNat, hrows,
    optional?_of_filter Json.ofFloat cells.gap (by simp [fields]) rfl
      fun x hx => Json.asFloat?_ofFloat (hgap x hx)]
  rfl

theorem Picture.ofFields?_congr {first second : List (String × Json)}
    (h : AgreeOn names first second) : ofFields? first = ofFields? second := by
  rw [ofFields?, ofFields?, optional?_congr (h "src" (by simp [names])),
    optional?_congr (h "binding" (by simp [names])), optional?_congr (h "alt" (by simp [names])),
    optional?_congr (h "objectFit" (by simp [names])),
    optional?_congr (h "aspectRatio" (by simp [names]))]

private theorem Picture.ofFields?_fields (picture : Picture)
    (hratio : ∀ x ∈ picture.aspectRatio, x.isFinite = true) :
    ofFields? picture.fields = some picture := by
  rw [ofFields?,
    optional?_of_filter .text picture.src (by simp [fields]) rfl fun _ _ => rfl,
    optional?_of_filter DataBinding.toJson picture.binding (by simp [fields]) rfl
      fun binding _ => binding.ofJson?_toJson,
    optional?_of_filter .text picture.alt (by simp [fields]) rfl fun _ _ => rfl,
    optional?_of_filter (fun fit => .text fit.name) picture.objectFit (by simp [fields]) rfl
      fun fit _ => fit.ofJson?_name,
    optional?_of_filter Json.ofFloat picture.aspectRatio (by simp [fields]) rfl
      fun x hx => Json.asFloat?_ofFloat (hratio x hx)]
  rfl

theorem Rule.ofFields?_congr {first second : List (String × Json)}
    (h : AgreeOn names first second) : ofFields? first = ofFields? second := by
  rw [ofFields?, ofFields?, optional?_congr (h "thickness" (by simp [names])),
    optional?_congr (h "color" (by simp [names]))]

private theorem Rule.ofFields?_fields (rule : Rule)
    (hthickness : ∀ x ∈ rule.thickness, x.isFinite = true) :
    ofFields? rule.fields = some rule := by
  rw [ofFields?,
    optional?_of_filter Json.ofFloat rule.thickness (by simp [fields]) rfl
      fun x hx => Json.asFloat?_ofFloat (hthickness x hx),
    optional?_of_filter .text rule.color (by simp [fields]) rfl fun _ _ => rfl]
  rfl

/-! ## Shapes -/

namespace Shape

def floats : Shape → List Binary64
  | .container (.stack _ flow) => flow.gap.toList
  | .container (.grid _ cells) => cells.gap.toList
  | .leaf (.image _ picture) => picture.aspectRatio.toList
  | .leaf (.divider _ rule) => rule.thickness.toList
  | _ => []

theorem ofFields?_congr {tag : Tag} {first second : List (String × Json)}
    (h : AgreeOn (names tag) first second) : ofFields? tag first = ofFields? tag second := by
  have hattributes (hsub : Attributes.names ⊆ names tag) :
      Attributes.ofFields? first = Attributes.ofFields? second :=
    Attributes.ofFields?_congr (h.mono hsub)
  cases tag with
  | frame =>
      rw [ofFields?, ofFields?, hattributes (List.subset_append_left ..),
        optional?_congr (h "pageBreak" (by simp [names]))]
  | stack =>
      rw [ofFields?, ofFields?, hattributes (List.subset_append_left ..),
        Flow.ofFields?_congr (h.mono (List.subset_append_right ..))]
  | grid =>
      rw [ofFields?, ofFields?, hattributes (List.subset_append_left ..),
        Cells.ofFields?_congr (h.mono (List.subset_append_right ..))]
  | text =>
      rw [ofFields?, ofFields?, hattributes (List.subset_append_left ..),
        optional?_congr (h "content" (by simp [names])),
        optional?_congr (h "binding" (by simp [names]))]
  | image =>
      rw [ofFields?, ofFields?, hattributes (List.subset_append_left ..),
        Picture.ofFields?_congr (h.mono (List.subset_append_right ..))]
  | table =>
      rw [ofFields?, ofFields?, hattributes (List.subset_append_left ..),
        defaulted?_congr (h "columns" (by simp [names])),
        required?_congr (h "dataBinding" (by simp [names]))]
  | divider =>
      rw [ofFields?, ofFields?, hattributes (List.subset_append_left ..),
        Rule.ofFields?_congr (h.mono (List.subset_append_right ..))]
  | repeater =>
      rw [ofFields?, ofFields?, optional?_congr (h "style" (by simp [names])),
        optional?_congr (h "condition" (by simp [names])),
        required?_congr (h "dataBinding" (by simp [names]))]

end Shape

theorem Container.ofFields?_fields (kind : Container)
    (hfinite : ∀ x ∈ (Shape.container kind).floats, x.isFinite = true) :
    Shape.ofFields? kind.tag kind.fields = some (.container kind) := by
  cases kind with
  | frame attributes pageBreak =>
      have hattributes : Attributes.ofFields? (fields (.frame attributes pageBreak)) =
          some attributes :=
        attributes.ofFields?_among [typeField .frame]
          (by simp [typeField, Attributes.names]) (by simp [Attributes.names])
      rw [tag, Shape.ofFields?, hattributes,
        optional?_of_filter .bool pageBreak
          (by simp [fields, typeField, Attributes.fields]) rfl fun _ _ => rfl]
      rfl
  | stack attributes flow =>
      have hattributes : Attributes.ofFields? (fields (.stack attributes flow)) =
          some attributes :=
        attributes.ofFields?_among [typeField .stack]
          (by simp [typeField, Attributes.names]) (by simp [Flow.fields, Attributes.names])
      have hflow : Flow.ofFields? (fields (.stack attributes flow)) = some flow :=
        (Flow.ofFields?_congr (agreeOn_back (typeField .stack :: attributes.fields)
          (by simp [typeField, Attributes.fields, Flow.names]))).trans
          (flow.ofFields?_fields (by simpa [Shape.floats] using hfinite))
      rw [tag, Shape.ofFields?, hattributes, hflow]
      rfl
  | grid attributes cells =>
      have hattributes : Attributes.ofFields? (fields (.grid attributes cells)) =
          some attributes :=
        attributes.ofFields?_among [typeField .grid]
          (by simp [typeField, Attributes.names]) (by simp [Cells.fields, Attributes.names])
      have hcells : Cells.ofFields? (fields (.grid attributes cells)) = some cells :=
        (Cells.ofFields?_congr (agreeOn_back (typeField .grid :: attributes.fields)
          (by simp [typeField, Attributes.fields, Cells.names]))).trans
          (cells.ofFields?_fields (by simpa [Shape.floats] using hfinite))
      rw [tag, Shape.ofFields?, hattributes, hcells]
      rfl
  | repeater style condition binding =>
      rw [tag, Shape.ofFields?,
        optional?_of_filter Object.toJson style
          (by simp [fields, typeField, Attributes.fields]) rfl
          fun style _ => Json.asObject?_toJson style,
        optional?_of_filter Condition.toJson condition
          (by simp [fields, typeField, Attributes.fields]) rfl
          fun condition _ => condition.ofJson?_toJson,
        required?_of_filter binding.toJson
          (by simp [fields, typeField, Attributes.fields]),
        binding.ofJson?_toJson]
      rfl

theorem Leaf.ofFields?_fields {kind : Leaf} {tag : Tag} (htag : kind.tag? = some tag)
    (hfinite : ∀ x ∈ (Shape.leaf kind).floats, x.isFinite = true) :
    Shape.ofFields? tag kind.fields = some (.leaf kind) := by
  cases kind with
  | text attributes content binding =>
      cases htag
      have hattributes : Attributes.ofFields? (fields (.text attributes content binding)) =
          some attributes := by
        rw [fields, List.append_assoc]
        exact attributes.ofFields?_among [typeField .text]
          (by simp [typeField, Attributes.names]) (by simp [Attributes.names])
      rw [Shape.ofFields?, hattributes,
        optional?_of_filter .text content
          (by simp [fields, typeField, Attributes.fields]) rfl fun _ _ => rfl,
        optional?_of_filter DataBinding.toJson binding
          (by simp [fields, typeField, Attributes.fields]) rfl
          fun binding _ => binding.ofJson?_toJson]
      rfl
  | image attributes picture =>
      cases htag
      have hattributes : Attributes.ofFields? (fields (.image attributes picture)) =
          some attributes :=
        attributes.ofFields?_among [typeField .image]
          (by simp [typeField, Attributes.names]) (by simp [Picture.fields, Attributes.names])
      have hpicture : Picture.ofFields? (fields (.image attributes picture)) = some picture :=
        (Picture.ofFields?_congr (agreeOn_back (typeField .image :: attributes.fields)
          (by simp [typeField, Attributes.fields, Picture.names]))).trans
          (picture.ofFields?_fields (by simpa [Shape.floats] using hfinite))
      rw [Shape.ofFields?, hattributes, hpicture]
      rfl
  | table attributes columns binding =>
      cases htag
      have hattributes : Attributes.ofFields? (fields (.table attributes columns binding)) =
          some attributes :=
        attributes.ofFields?_among [typeField .table]
          (by simp [typeField, Attributes.names]) (by simp [Attributes.names])
      rw [Shape.ofFields?, hattributes,
        defaulted?_of_filter (.list (columns.map Column.toJson))
          (by simp [fields, typeField, Attributes.fields]),
        columnsOfJson?_toJson,
        required?_of_filter binding.toJson
          (by simp [fields, typeField, Attributes.fields]),
        binding.ofJson?_toJson]
      rfl
  | divider attributes rule =>
      cases htag
      have hattributes : Attributes.ofFields? (fields (.divider attributes rule)) =
          some attributes :=
        attributes.ofFields?_among [typeField .divider]
          (by simp [typeField, Attributes.names]) (by simp [Rule.fields, Attributes.names])
      have hrule : Rule.ofFields? (fields (.divider attributes rule)) = some rule :=
        (Rule.ofFields?_congr (agreeOn_back (typeField .divider :: attributes.fields)
          (by simp [typeField, Attributes.fields, Rule.names]))).trans
          (rule.ofFields?_fields (by simpa [Shape.floats] using hfinite))
      rw [Shape.ofFields?, hattributes, hrule]
      rfl
  | unknown fields => cases htag

/-! ## Types as written and as read -/

theorem Attributes.filter_type (attributes : Attributes) :
    attributes.fields.filter (·.1 == "type") = [] := by
  simp [Attributes.fields]

theorem Container.filter_type (kind : Container) :
    kind.fields.filter (·.1 == "type") = [typeField kind.tag] := by
  cases kind <;>
    simp [Container.fields, typeField, Attributes.filter_type, Flow.fields, Cells.fields]

theorem Leaf.filter_type {kind : Leaf} {tag : Tag} (h : kind.tag? = some tag) :
    kind.fields.filter (·.1 == "type") = [typeField tag] := by
  cases kind <;> cases h <;>
    simp [Leaf.fields, typeField, Attributes.filter_type, Picture.fields, Rule.fields]

theorem Shape.single?_type {shape : Shape} {tag : Tag} (htag : shape.tag? = some tag)
    {fields : List (String × Json)} (hfields : (shape.element []).toJson.asFields? = some fields) :
    Json.single? fields "type" = some (some (.text tag.name)) := by
  cases shape with
  | container kind =>
      cases htag
      simp only [element, Element.toJson, Json.asFields?, Option.some.injEq] at hfields
      simp [← hfields, Json.single?, Container.filter_type, typeField]
  | leaf kind =>
      simp only [element, Element.toJson, Json.asFields?, Option.some.injEq] at hfields
      simp [← hfields, Json.single?, Leaf.filter_type htag, typeField]

theorem knownTag?_of_single? {tag : Tag} {fields : List (String × Json)}
    (h : Json.single? fields "type" = some (some (.text tag.name))) :
    knownTag? fields = some tag := by
  rw [knownTag?, required?, h]
  exact Tag.ofName?_name tag

theorem Shape.tag?_of_ofFields? {tag : Tag} {fields : List (String × Json)} {shape : Shape}
    (h : ofFields? tag fields = some shape) : shape.tag? = some tag := by
  cases tag <;> simp only [ofFields?, Option.bind_eq_bind, Option.bind_eq_some_iff] at h <;>
    grind [Shape.tag?, Container.tag, Leaf.tag?]

theorem Shape.shape_of_holding? {shape : Shape} {children : Unit → Option (List Element)}
    {element : Element} (h : shape.holding? children = some element) : element.shape = shape := by
  cases shape with
  | container kind =>
      obtain ⟨given, -, rfl⟩ := Option.map_eq_some_iff.mp h
      rfl
  | leaf kind =>
      cases h
      rfl

theorem Element.tag?_of_ofJson? {tag : Tag} {fields : List (String × Json)} {element : Element}
    (htag : knownTag? fields = some tag) (h : ofJson? (.object fields) = some element) :
    element.shape.tag? = some tag := by
  simp only [ofJson?, htag] at h
  obtain ⟨shape, hshape, hholding⟩ := Option.bind_eq_some_iff.mp h
  rw [Shape.shape_of_holding? hholding]
  exact Shape.tag?_of_ofFields? hshape

end DocTemplate

import DocTemplate.Proofs.Template.Codec
import DocTemplate.Proofs.Template.Everywhere
import DocTemplate.Template.Document

/-!
# Documents written and read

What is written of a document is read back as the same document, unless it has a float that is not
finite or an unknown element whose type is the name of a tag.  Such documents are not read at all:
whatever has been read can be written and read again.
-/

namespace DocTemplate

open Json (required? defaulted? required?_of_filter defaulted?_of_filter agreeOn_front)

/-! ## What can be written without loss -/

structure Shape.Lossless (shape : Shape) : Prop where
  finite : ∀ x ∈ shape.floats, x.isFinite = true
  /-- The type of an unknown element is a text, and not the name of a tag. -/
  unknown : ∀ fields, shape = .leaf (.unknown fields) →
    ∃ name, fields.get? "type" = some (.text name) ∧ Tag.ofName? name = none

def Element.Lossless (element : Element) : Prop := element.All Shape.Lossless

def Document.Lossless (document : Document) : Prop := document.template.Lossless

/-! ## Lists of elements -/

namespace Element

private theorem toJsons_eq_map (children : List Element) :
    toJsons children = children.map toJson := by
  induction children with
  | nil => rfl
  | cons child rest ih => rw [toJsons, ih, List.map_cons]

theorem ofJsons?_eq_mapM (items : List Json) : ofJsons? items = items.mapM ofJson? := by
  induction items with
  | nil => rfl
  | cons item rest ih =>
      rw [ofJsons?, List.mapM_cons, ih]
      cases ofJson? item with
      | none => rfl
      | some element => cases rest.mapM ofJson? <;> rfl

end Element

/-! ## Reading by the type -/

/-- The tag and the fields of what is read as an element of a known type. -/
def Json.tagged? (value : Json) : Option (Tag × List (String × Json)) :=
  value.typed? Tag.ofJson? Tag.keys

theorem Json.tagged?_object (fields : List (String × Json)) :
    (object fields).tagged? = (knownTag? fields).map (·, fields) := rfl

private theorem Tag.nodup_keys (tag : Tag) : tag.keys.Nodup := by cases tag <;> decide

namespace Element

private theorem childrenOfFields?_eq (fields : List (String × Json)) :
    childrenOfFields? fields = defaulted? childrenOfJson? [] fields "children" := by
  rw [Json.defaulted?_eq_elim]
  exact Json.searchFields_eq rfl (fun _ _ _ => by rw [childrenOfFields?]) fields

private theorem childrenOfItems?_eq {keys : List String} (hkeys : keys.Nodup) (items : List Json) :
    childrenOfItems? keys items = defaulted? childrenOfJson? [] (keys.zip items) "children" := by
  rw [Json.defaulted?_eq_elim]
  refine Json.searchItems_eq (fun _ => by rw [childrenOfItems?]) (fun items => ?_)
    (fun _ _ _ _ => by rw [childrenOfItems?]) hkeys items
  cases items <;> rw [childrenOfItems?]

section Reading

variable {tag : Tag} {value : Json} {fields : List (String × Json)}

theorem ofJson?_of_tagged (h : value.tagged? = some (tag, fields)) :
    ofJson? value =
      (Shape.ofFields? tag fields).bind fun shape =>
        shape.holding? fun _ => defaulted? childrenOfJson? [] fields "children" := by
  cases value with
  | object given =>
      rw [Json.tagged?_object] at h
      obtain ⟨known, hknown, heq⟩ := Option.map_eq_some_iff.mp h
      cases heq
      simp only [ofJson?, hknown, childrenOfFields?_eq]
      rfl
  | list items =>
      cases items with
      | nil => cases h
      | cons type items =>
          simp only [Json.tagged?, Json.typed?, Option.bind_eq_bind, Option.bind_eq_some_iff] at h
          obtain ⟨known, hknown, given, hgiven, heq⟩ := h
          cases heq
          rw [ofJson?, hknown]
          simp only [Option.bind_eq_bind, Option.bind_some, hgiven,
            childrenOfItems?_eq tag.nodup_keys, ← Json.eq_zip_of_positional? hgiven]
  | _ => cases h

theorem ofJson?_of_untagged (h : value.tagged? = none) :
    ofJson? value = (value.asFields?.bind unknownOfFields?).map .leaf := by
  cases value with
  | object given =>
      have hknown : knownTag? given = none := Option.map_eq_none_iff.mp h
      simp only [ofJson?, hknown, Json.asFields?, Option.bind_some]
  | list items =>
      cases items with
      | nil => rfl
      | cons type items =>
          change ofJson? (.list (type :: items)) = none
          rw [ofJson?]
          simp only [Json.tagged?, Json.typed?, Option.bind_eq_bind] at h ⊢
          cases htype : Tag.ofJson? type with
          | none => rfl
          | some tag =>
              rw [htype, Option.bind_some] at h
              cases hgiven : Json.positional? tag.keys items with
              | none => simp [hgiven]
              | some given => simp [hgiven] at h
  | _ => rfl

theorem ofJson?_of_unknown (htag : knownTag? fields = none) :
    ofJson? (.object fields) = (unknownOfFields? fields).map .leaf :=
  ofJson?_of_untagged (Option.map_eq_none_iff.mpr htag)

theorem ofJson?_of_known (htag : knownTag? fields = some tag) :
    ofJson? (.object fields) =
      (Shape.ofFields? tag fields).bind fun shape =>
        shape.holding? fun _ => defaulted? childrenOfJson? [] fields "children" :=
  ofJson?_of_tagged (Option.map_eq_some_iff.mpr ⟨tag, htag, rfl⟩)

end Reading

end Element

/-! ## Elements written and read -/

theorem knownTag?_of_filter {tag : Tag} {fields : List (String × Json)}
    (h : fields.filter (·.1 == "type") = [typeField tag]) : knownTag? fields = some tag :=
  knownTag?_of_single? (Json.single?_of_filter h)

theorem Container.avoids_children (kind : Container) : Json.Avoids ["children"] kind.fields := by
  cases kind <;>
    simp [fields, typeField, Attributes.fields, Flow.fields, Cells.fields]

private theorem Shape.avoids_names (tag : Tag) (value : Json) :
    Json.Avoids (names tag) [("children", value)] := by
  cases tag <;>
    simp [names, Attributes.names, Flow.names, Cells.names, Picture.names, Rule.names]

namespace Element

private theorem ofJson?_container {kind : Container} {children : List Element}
    (hfinite : ∀ x ∈ (Shape.container kind).floats, x.isFinite = true)
    (hchildren : ∀ child ∈ children, ofJson? child.toJson = some child) :
    ofJson? (toJson (.container kind children)) = some (.container kind children) := by
  have htag : knownTag? (kind.fields ++ [("children", .list (toJsons children))]) =
      some kind.tag := by
    refine knownTag?_of_filter ?_
    rw [List.filter_append, kind.filter_type]
    rfl
  have hshape : Shape.ofFields? kind.tag
      (kind.fields ++ [("children", .list (toJsons children))]) = some (.container kind) :=
    (Shape.ofFields?_congr (agreeOn_front (Shape.avoids_names kind.tag _))).trans
      (kind.ofFields?_fields hfinite)
  have hfilter : (kind.fields ++ [("children", Json.list (toJsons children))]).filter
      (·.1 == "children") = [("children", .list (toJsons children))] := by
    rw [List.filter_append, kind.avoids_children.filter_eq_nil List.mem_cons_self]
    rfl
  have hitems : ofJsons? (toJsons children) = some children := by
    rw [ofJsons?_eq_mapM, toJsons_eq_map]
    exact mapM_map_eq_some hchildren
  rw [toJson, ofJson?_of_known htag, hshape, Option.bind_some, defaulted?_of_filter _ hfilter]
  exact congrArg (Option.map _) hitems

private theorem ofJson?_leaf {kind : Leaf} (h : (Shape.leaf kind).Lossless) :
    ofJson? (toJson (.leaf kind)) = some (.leaf kind) := by
  cases htag : kind.tag? with
  | some tag =>
      have hknown : knownTag? kind.fields = some tag := knownTag?_of_filter (kind.filter_type htag)
      rw [toJson, ofJson?_of_known hknown, kind.ofFields?_fields htag h.finite]
      rfl
  | none =>
      cases kind with
      | unknown fields =>
          obtain ⟨name, hname, huntagged⟩ := h.unknown fields rfl
          have hknown : knownTag? fields.fields = none := by
            rw [knownTag?, required?, fields.single?_fields, hname]
            exact huntagged
          have hread : unknownOfFields? fields.fields = some (.unknown fields) := by
            rw [unknownOfFields?, Object.ofFields_fields, hname]
            simp [Json.asText?, huntagged]
          rw [toJson, Leaf.fields, ofJson?_of_unknown hknown, hread]
          rfl
      | _ => cases htag

theorem ofJson?_toJson {element : Element} (h : element.Lossless) :
    ofJson? element.toJson = some element := by
  induction element using inductionOnChildren with
  | step element ih =>
      have hchildren (child : Element) (hchild : child ∈ element.children) :
          ofJson? child.toJson = some child := ih child hchild (h.children child hchild)
      cases element with
      | container kind children => exact ofJson?_container h.shape.finite hchildren
      | leaf kind => exact ofJson?_leaf h.shape

end Element

/-! ## Documents written and read -/

theorem Json.asTextMap?_map_text (entries : List (String × String)) :
    asTextMap? (.object (entries.map fun entry => (entry.1, Json.text entry.2))) =
      some (.ofList entries) := by
  have hentries {read : String × Json → Option (String × String)}
      (hread : ∀ key text, read (key, .text text) = some (key, text)) :
      (entries.map fun entry => (entry.1, Json.text entry.2)).mapM read = some entries :=
    mapM_map_eq_some fun entry _ => hread entry.1 entry.2
  rw [asTextMap?, asFields?]
  simp only [Option.bind_eq_bind, Option.bind_some]
  rw [hentries fun _ _ => rfl]
  rfl

private theorem DesignTokens.asTextMap?_textMapToJson (map : KeyMap String) :
    (textMapToJson map).asTextMap? = some map :=
  (Json.asTextMap?_map_text map.entries).trans (congrArg some map.ofList_entries)

theorem DesignTokens.ofJson?_toJson (tokens : DesignTokens) :
    ofJson? tokens.toJson = some tokens := by
  rw [toJson, ofJson?, Json.asRecord?]
  simp only [Option.bind_eq_bind, Option.bind_some]
  rw [defaulted?_of_filter (textMapToJson tokens.colors) (by simp), asTextMap?_textMapToJson,
    defaulted?_of_filter (textMapToJson tokens.typography) (by simp), asTextMap?_textMapToJson]
  rfl

theorem Document.ofJson?_toJson {document : Document} (h : document.Lossless) :
    ofJson? document.toJson = some document := by
  rw [toJson, ofJson?, Json.asRecord?]
  simp only [Option.bind_eq_bind, Option.bind_some]
  rw [required?_of_filter document.template.toJson (by simp), Element.ofJson?_toJson h,
    defaulted?_of_filter document.tokens.toJson (by simp), document.tokens.ofJson?_toJson]
  rfl

end DocTemplate

import DocTemplate.Proofs.Json.Numbers
import DocTemplate.Proofs.Template.Lossless

/-!
# Elements that have been read

An element that has been read has its children, and theirs, at the places of the values that they
have been read from.  If the numbers of the value fit, the element can be written and read again;
and every element of unknown type is written as it was read.
-/

namespace DocTemplate

open Json (single? required? optional? defaulted?)

/-! ## Values of a record -/

namespace Json

theorem Fits.asRecord? {value : Json} {keys : List String} {fields : List (String × Json)}
    (h : value.Fits) (hrecord : value.asRecord? keys = some fields) : (object fields).Fits := by
  cases value with
  | object given =>
      cases hrecord
      exact h
  | list items =>
      refine fits_object.mpr fun field hfield => fits_list.mp h field.2 ?_
      exact mem_items_of_positional? hrecord hfield
  | _ => cases hrecord

theorem Fits.tagged? {value : Json} {tag : Tag} {fields : List (String × Json)} (h : value.Fits)
    (htagged : value.tagged? = some (tag, fields)) : (object fields).Fits := by
  cases value with
  | object given =>
      cases eq_fields_of_typed? htagged
      exact h
  | list items =>
      refine fits_object.mpr fun field hfield => fits_list.mp h field.2 ?_
      exact mem_items_of_typed? htagged hfield
  | _ => cases htagged

private theorem Ordered.tagged? {value : Json} {tag : Tag} {fields : List (String × Json)}
    (h : value.Ordered) (htagged : value.tagged? = some (tag, fields)) :
    ∀ field ∈ fields, field.2.Ordered := by
  cases value with
  | object given =>
      cases eq_fields_of_typed? htagged
      rw [Ordered] at h
      exact orderedFields_iff.mp h.2
  | list items =>
      rw [Ordered] at h
      exact fun field hfield => orderedItems_iff.mp h field.2 (mem_items_of_typed? htagged hfield)
  | _ => cases htagged

/-! ## Values below a value -/

def childValues (value : Json) : List Json :=
  match value.tagged? with
  | some (tag, fields) =>
      if tag.isContainer then ((fields.lookup "children").bind asList?).getD [] else []
  | none => []

/-- The value at the place of an element, found by passing through known containers only. -/
def elementAt? : ElementPath → Json → Option Json
  | [], value => some value
  | index :: rest, value => (value.childValues[index]?).bind (elementAt? rest)

def HasUnknownType : Json → Prop
  | .object fields =>
      ∃ name, single? fields "type" = some (some (.text name)) ∧ Tag.ofName? name = none
  | _ => False

theorem mem_childValues {value item : Json} (h : item ∈ value.childValues) :
    ∃ tag fields items, value.tagged? = some (tag, fields) ∧ ("children", .list items) ∈ fields ∧
      item ∈ items := by
  rw [childValues] at h
  split at h
  · next tag fields htagged =>
      split at h
      · cases hlookup : fields.lookup "children" with
        | none => simp [hlookup] at h
        | some children =>
            cases children with
            | list items =>
                simp only [hlookup, Option.bind_some, asList?, Option.getD_some] at h
                exact ⟨tag, fields, items, htagged, mem_of_lookup hlookup, h⟩
            | _ => simp [hlookup, asList?] at h
      · cases h
  · cases h

private theorem Fits.childValues {value item : Json} (h : value.Fits)
    (hitem : item ∈ value.childValues) :
    item.Fits := by
  obtain ⟨tag, fields, items, htagged, hfield, hmem⟩ := mem_childValues hitem
  exact fits_list.mp (fits_object.mp (h.tagged? htagged) _ hfield) item hmem

private theorem Ordered.childValues {value item : Json} (h : value.Ordered)
    (hitem : item ∈ value.childValues) : item.Ordered := by
  obtain ⟨tag, fields, items, htagged, hfield, hmem⟩ := mem_childValues hitem
  have hitems := h.tagged? htagged _ hfield
  rw [Ordered] at hitems
  exact orderedItems_iff.mp hitems item hmem

theorem Ordered.elementAt? {value item : Json} {path : ElementPath} (h : value.Ordered)
    (hitem : value.elementAt? path = some item) : item.Ordered := by
  induction path generalizing value with
  | nil =>
      cases hitem
      exact h
  | cons index path ih =>
      obtain ⟨child, hchild, hbelow⟩ := Option.bind_eq_some_iff.mp hitem
      exact ih (h.childValues (List.mem_of_getElem? hchild)) hbelow

end Json

/-! ## The children of what has been read -/

theorem getElem?_of_mapM {α β : Type} {read : α → Option β} {items : List α} {results : List β}
    (h : items.mapM read = some results) (index : Nat) :
    (items[index]? = none ∧ results[index]? = none) ∨
      ∃ item result, items[index]? = some item ∧ results[index]? = some result ∧
        read item = some result := by
  induction items generalizing results index with
  | nil =>
      cases h
      simp
  | cons item items ih =>
      rw [List.mapM_cons] at h
      obtain ⟨first, hfirst, hrest⟩ := Option.bind_eq_some_iff.mp h
      obtain ⟨others, hothers, heq⟩ := Option.bind_eq_some_iff.mp hrest
      cases heq
      cases index with
      | zero => exact .inr ⟨item, first, rfl, rfl, hfirst⟩
      | succ index => simpa using ih hothers index

namespace Element

private theorem mapM_of_defaulted? {fields : List (String × Json)} {children : List Element}
    (h : defaulted? childrenOfJson? [] fields "children" = some children) :
    (((fields.lookup "children").bind Json.asList?).getD []).mapM ofJson? = some children := by
  obtain ⟨given, hsingle, hread⟩ := Option.bind_eq_some_iff.mp h
  rw [Json.lookup_of_single? hsingle]
  cases given with
  | none => exact hread
  | some given =>
      cases given with
      | list items => exact (ofJsons?_eq_mapM items).symm.trans hread
      | _ => cases hread

/-- An element is either of unknown type or read by its tag; in both cases its children are what has
been read from the values below. -/
theorem ofJson?_cases {value : Json} {element : Element} (h : ofJson? value = some element) :
    ((∃ fields kind, value = .object fields ∧ unknownOfFields? fields = some kind ∧
        element.shape = .leaf kind) ∨
      ∃ tag fields, value.tagged? = some (tag, fields) ∧
        Shape.ofFields? tag fields = some element.shape) ∧
      value.childValues.mapM ofJson? = some element.children := by
  rw [Json.childValues]
  cases htagged : value.tagged? with
  | none =>
      rw [ofJson?_of_untagged htagged] at h
      obtain ⟨kind, hkind, rfl⟩ := Option.map_eq_some_iff.mp h
      obtain ⟨fields, hfields, hread⟩ := Option.bind_eq_some_iff.mp hkind
      cases value with
      | object given =>
          cases hfields
          exact ⟨.inl ⟨_, kind, rfl, hread, rfl⟩, rfl⟩
      | _ => cases hfields
  | some known =>
      obtain ⟨tag, fields⟩ := known
      rw [ofJson?_of_tagged htagged] at h
      obtain ⟨shape, hshape, hholding⟩ := Option.bind_eq_some_iff.mp h
      have hcontainer := Shape.isContainer_of_tag? (Shape.tag?_of_ofFields? hshape)
      obtain rfl := Shape.shape_of_holding? hholding
      refine ⟨.inr ⟨tag, fields, rfl, hshape⟩, ?_⟩
      dsimp only
      rw [← hcontainer]
      cases element with
      | leaf kind => rfl
      | container kind children =>
          obtain ⟨given, hchildren, heq⟩ := Option.map_eq_some_iff.mp hholding
          cases heq
          exact mapM_of_defaulted? hchildren

private theorem mem_children_of_ofJson? {value : Json} {element child : Element}
    (h : ofJson? value = some element) (hchild : child ∈ element.children) :
    ∃ item ∈ value.childValues, ofJson? item = some child := by
  obtain ⟨-, hchildren⟩ := ofJson?_cases h
  obtain ⟨index, hindex⟩ := List.getElem?_of_mem hchild
  rcases getElem?_of_mapM hchildren index with ⟨-, hnone⟩ | ⟨item, result, hitem, hresult, hread⟩
  · rw [hnone] at hindex
    cases hindex
  · obtain rfl : result = child := Option.some.inj (hresult.symm.trans hindex)
    exact ⟨item, List.mem_of_getElem? hitem, hread⟩

private theorem find?_of_ofJson? {value : Json} {element : Element}
    (h : ofJson? value = some element) (path : ElementPath) :
    (value.elementAt? path = none ∧ element.find? path = none) ∨
      ∃ item sub, value.elementAt? path = some item ∧ element.find? path = some sub ∧
        ofJson? item = some sub := by
  induction path generalizing value element with
  | nil => exact .inr ⟨value, element, rfl, rfl, h⟩
  | cons index path ih =>
      obtain ⟨-, hchildren⟩ := ofJson?_cases h
      rw [find?_cons, Json.elementAt?]
      rcases getElem?_of_mapM hchildren index with
        ⟨hvalue, hnone⟩ | ⟨item, child, hitem, hchild, hread⟩
      · rw [hvalue, hnone]
        exact .inl ⟨rfl, rfl⟩
      · rw [hitem, hchild]
        exact ih hread

end Element

/-! ## Floats that have been read -/

namespace Json

/-- The value is not read as a float that is not finite. -/
def FiniteAsFloat (value : Json) : Prop := ∀ x, value.asFloat? = some x → x.isFinite = true

def FiniteFields (fields : List (String × Json)) : Prop :=
  ∀ field ∈ fields, field.2.FiniteAsFloat

variable {α : Type} {write : α → Json} {key : String} {value : Json}
  {fields first second : List (String × Json)}

@[simp] theorem finiteAsFloat_text {text : String} : (Json.text text).FiniteAsFloat := nofun

@[simp] theorem finiteAsFloat_bool {flag : Bool} : (Json.bool flag).FiniteAsFloat := nofun

@[simp] theorem finiteAsFloat_list {items : List Json} : (Json.list items).FiniteAsFloat := nofun

@[simp] theorem finiteAsFloat_object : (Json.object fields).FiniteAsFloat := nofun

@[simp] theorem finiteAsFloat_ofFloat {x : Binary64} : (ofFloat x).FiniteAsFloat := by
  intro y h
  rw [ofFloat] at h
  split at h
  · next hfinite =>
      cases h
      exact hfinite
  · cases h

@[simp] theorem finiteAsFloat_ofNat {n : UInt32} : (ofNat n.toNat).FiniteAsFloat := by
  refine fun x h => Fits.isFinite_of_asFloat? (fits_number.mpr ?_) h
  have hsize := n.toNat_lt
  simp only [Number.Fits, wordBound]
  omega

@[simp] theorem finiteFields_nil : FiniteFields [] := nofun

@[simp] theorem finiteFields_cons :
    FiniteFields ((key, value) :: fields) ↔ value.FiniteAsFloat ∧ FiniteFields fields := by
  simp [FiniteFields]

@[simp] theorem finiteFields_append :
    FiniteFields (first ++ second) ↔ FiniteFields first ∧ FiniteFields second := by
  simp only [FiniteFields, List.mem_append, or_imp, forall_and]

@[simp] theorem finiteFields_optionalField {given : Option α} :
    FiniteFields (optionalField write key given) ↔ ∀ item ∈ given, (write item).FiniteAsFloat := by
  cases given <;> simp [optionalField]

private theorem FiniteAsFloat.sorted {value : Json} (h : value.FiniteAsFloat) :
    value.sorted.FiniteAsFloat := by
  cases value with
  | list items => exact finiteAsFloat_list
  | object fields => exact finiteAsFloat_object
  | _ => exact h

theorem FiniteFields.sortedFields {fields : List (String × Json)} (h : FiniteFields fields) :
    FiniteFields (sortedFields fields) := by
  induction fields with
  | nil => exact finiteFields_nil
  | cons head rest ih =>
      obtain ⟨key, value⟩ := head
      obtain ⟨hvalue, hrest⟩ := finiteFields_cons.mp h
      intro field hfield
      rcases mem_insertAbsent hfield with rfl | hmem
      · exact hvalue.sorted
      · exact ih hrest field hmem

end Json

section FiniteFields

variable {fields : List (String × Json)}

theorem Json.Fits.finiteFields (h : (Json.object fields).Fits) : FiniteFields fields :=
  fun field hfield _ hread => (fits_object.mp h field hfield).isFinite_of_asFloat? hread

theorem Json.FiniteFields.of_optional? {key : String} {given : Option Binary64}
    (h : FiniteFields fields) (hread : optional? Json.asFloat? fields key = some given) :
    ∀ x ∈ given, x.isFinite = true := by
  rintro x rfl
  obtain ⟨value, hfield, hvalue⟩ := Json.exists_of_optional? hread
  exact h _ hfield x hvalue

private theorem Flow.finite_of_ofFields? {flow : Flow} (hfinite : Json.FiniteFields fields)
    (h : ofFields? fields = some flow) : ∀ x ∈ flow.gap, x.isFinite = true := by
  simp only [ofFields?, Option.bind_eq_bind, Option.bind_eq_some_iff] at h
  obtain ⟨direction, -, gap, hgap, align, -, justify, -, wrap, -, heq⟩ := h
  cases heq
  exact hfinite.of_optional? hgap

private theorem Cells.finite_of_ofFields? {cells : Cells} (hfinite : Json.FiniteFields fields)
    (h : ofFields? fields = some cells) : ∀ x ∈ cells.gap, x.isFinite = true := by
  simp only [ofFields?, Option.bind_eq_bind, Option.bind_eq_some_iff] at h
  obtain ⟨cols, -, rows, -, gap, hgap, heq⟩ := h
  cases heq
  exact hfinite.of_optional? hgap

private theorem Picture.finite_of_ofFields? {picture : Picture} (hfinite : Json.FiniteFields fields)
    (h : ofFields? fields = some picture) : ∀ x ∈ picture.aspectRatio, x.isFinite = true := by
  simp only [ofFields?, Option.bind_eq_bind, Option.bind_eq_some_iff] at h
  obtain ⟨src, -, binding, -, alt, -, objectFit, -, aspectRatio, hratio, heq⟩ := h
  cases heq
  exact hfinite.of_optional? hratio

private theorem Rule.finite_of_ofFields? {rule : Rule} (hfinite : Json.FiniteFields fields)
    (h : ofFields? fields = some rule) : ∀ x ∈ rule.thickness, x.isFinite = true := by
  simp only [ofFields?, Option.bind_eq_bind, Option.bind_eq_some_iff] at h
  obtain ⟨thickness, hthickness, color, -, heq⟩ := h
  cases heq
  exact hfinite.of_optional? hthickness

private theorem Shape.finite_of_ofFields? {tag : Tag} {shape : Shape}
    (hfinite : Json.FiniteFields fields)
    (h : ofFields? tag fields = some shape) : ∀ x ∈ shape.floats, x.isFinite = true := by
  cases tag <;> simp only [ofFields?, Option.bind_eq_bind, Option.bind_eq_some_iff] at h
  case frame =>
    obtain ⟨attributes, -, pageBreak, -, heq⟩ := h
    cases heq
    simp [floats]
  case stack =>
    obtain ⟨attributes, -, flow, hflow, heq⟩ := h
    cases heq
    simpa [floats] using Flow.finite_of_ofFields? hfinite hflow
  case grid =>
    obtain ⟨attributes, -, cells, hcells, heq⟩ := h
    cases heq
    simpa [floats] using Cells.finite_of_ofFields? hfinite hcells
  case text =>
    obtain ⟨attributes, -, content, -, binding, -, heq⟩ := h
    cases heq
    simp [floats]
  case image =>
    obtain ⟨attributes, -, picture, hpicture, heq⟩ := h
    cases heq
    simpa [floats] using Picture.finite_of_ofFields? hfinite hpicture
  case table =>
    obtain ⟨attributes, -, columns, -, binding, -, heq⟩ := h
    cases heq
    simp [floats]
  case divider =>
    obtain ⟨attributes, -, rule, hrule, heq⟩ := h
    cases heq
    simpa [floats] using Rule.finite_of_ofFields? hfinite hrule
  case repeater =>
    obtain ⟨style, -, condition, -, binding, -, heq⟩ := h
    cases heq
    simp [floats]

end FiniteFields

/-! ## Elements that can be written again -/

theorem Shape.lossless_of_ofFields? {tag : Tag} {shape : Shape} {fields : List (String × Json)}
    (hfinite : Json.FiniteFields fields) (h : ofFields? tag fields = some shape) :
    shape.Lossless where
  finite := finite_of_ofFields? hfinite h
  unknown := by
    rintro object rfl
    cases tag?_of_ofFields? h

theorem unknownOfFields?_eq_some {kind : Leaf} {fields : List (String × Json)}
    (h : unknownOfFields? fields = some kind) :
    kind = .unknown (.ofFields fields) ∧
      ∃ name, (Object.ofFields fields).get? "type" = some (.text name) ∧
        Tag.ofName? name = none := by
  simp only [unknownOfFields?, Option.bind_eq_bind, Option.bind_eq_some_iff] at h
  obtain ⟨value, hvalue, name, hname, hread⟩ := h
  split at hread
  · cases hread
  · next htag =>
      cases hread
      refine ⟨rfl, name, ?_, by simpa using htag⟩
      cases value with
      | text given =>
          cases hname
          exact hvalue
      | _ => cases hname

theorem Shape.lossless_of_unknownOfFields? {kind : Leaf} {fields : List (String × Json)}
    (h : unknownOfFields? fields = some kind) : (Shape.leaf kind).Lossless := by
  obtain ⟨rfl, hname⟩ := unknownOfFields?_eq_some h
  refine ⟨by simp [floats], ?_⟩
  rintro object heq
  cases heq
  exact hname

theorem Element.lossless_of_ofJson? {value : Json} {element : Element} (hfits : value.Fits)
    (h : ofJson? value = some element) : element.Lossless := by
  induction element using inductionOnChildren generalizing value with
  | step element ih =>
      refine .intro ?_ fun child hchild => ?_
      · obtain ⟨⟨fields, kind, -, hkind, hshape⟩ | ⟨tag, fields, htagged, hshape⟩, -⟩ :=
          ofJson?_cases h
        · rw [hshape]
          exact Shape.lossless_of_unknownOfFields? hkind
        · exact Shape.lossless_of_ofFields? (hfits.tagged? htagged).finiteFields hshape
      · obtain ⟨item, hitem, hread⟩ := mem_children_of_ofJson? h hchild
        exact ih child hchild (hfits.childValues hitem) hread

/-! ## Elements that are kept as they are -/

private theorem Element.toJson_of_hasUnknownType {item : Json} {sub : Element}
    (hunknown : item.HasUnknownType) (h : ofJson? item = some sub) : sub.toJson = item.sorted := by
  cases item with
  | object fields =>
      obtain ⟨name, hname, huntagged⟩ := hunknown
      have hknown : knownTag? fields = none := by
        rw [knownTag?, required?, hname]
        exact huntagged
      rw [ofJson?_of_unknown hknown] at h
      obtain ⟨kind, hkind, rfl⟩ := Option.map_eq_some_iff.mp h
      rw [(unknownOfFields?_eq_some hkind).1, toJson, Leaf.fields, Object.ofFields, Json.sorted]
  | _ => exact hunknown.elim

/-- What has an unknown type anywhere below known containers is written as it was read. -/
theorem Element.unknown_verbatim {value item : Json} {element : Element} {path : ElementPath}
    (h : ofJson? value = some element) (hitem : value.elementAt? path = some item)
    (hunknown : item.HasUnknownType) :
    ∃ sub, element.find? path = some sub ∧ sub.toJson = item.sorted := by
  rcases find?_of_ofJson? h path with ⟨hnone, -⟩ | ⟨found, sub, hfound, hsub, hread⟩
  · rw [hnone] at hitem
    cases hitem
  · obtain rfl : found = item := Option.some.inj (hfound.symm.trans hitem)
    exact ⟨sub, hsub, toJson_of_hasUnknownType hunknown hread⟩

theorem Document.lossless_of_ofJson? {value : Json} {document : Document} (hfits : value.Fits)
    (h : ofJson? value = some document) : document.Lossless := by
  simp only [ofJson?, Option.bind_eq_bind, Option.bind_eq_some_iff] at h
  obtain ⟨fields, hfields, template, htemplate, tokens, -, heq⟩ := h
  cases heq
  obtain ⟨given, hgiven, hread⟩ := Json.exists_of_required? htemplate
  exact Element.lossless_of_ofJson? (Json.fits_object.mp (hfits.asRecord? hfields) _ hgiven) hread

end DocTemplate

import DocTemplate.Proofs.Edit.OnTree
import DocTemplate.Proofs.Edit.Patch
import DocTemplate.Proofs.Template.Reading

/-!
# Edits that lose nothing

An edit that has been read leaves a document that can be written and read again: what it inserts has
been read, and a patched element is read from fields that have been written or read before.
-/

namespace DocTemplate

/-! ## Fields as written -/

private theorem Container.finiteFields (kind : Container) : Json.FiniteFields kind.fields := by
  cases kind <;>
    simp [fields, typeField, Attributes.fields, Flow.fields, Cells.fields, Object.toJson,
      Condition.toJson, DataBinding.toJson]

private theorem Leaf.finiteFields {kind : Leaf} {tag : Tag} (h : kind.tag? = some tag) :
    Json.FiniteFields kind.fields := by
  cases kind <;> cases h <;>
    simp [fields, typeField, Attributes.fields, Picture.fields, Rule.fields, Object.toJson,
      Condition.toJson, DataBinding.toJson]

/-! ## Patches -/

namespace Effect

open Json (required?)

variable {shape patched : Shape} {patch : Object}

private theorem finiteFields_merge {fields : List (String × Json)}
    (hfields : Json.FiniteFields fields)
    (hpatch : Json.FiniteFields patch.fields) : Json.FiniteFields (merge fields patch) := by
  refine Json.finiteFields_append.mpr ⟨?_, ?_⟩
  · exact fun field hfield => hfields field (List.mem_filter.mp hfield).1
  · exact fun field hfield => hpatch field (List.mem_filter.mp hfield).1

/-- A patch without a type leaves the type of an unknown element, and so its fields, unread. -/
theorem knownTag?_merge {fields : List (String × Json)} (hpatch : protectedField? patch = none) :
    knownTag? (merge fields patch) = knownTag? fields :=
  Json.required?_congr (single?_merge (get?_of_unprotected hpatch))

private theorem finiteFields_of_knownTag? {tag : Tag} {fields : List (String × Json)}
    (hshape : shape.Lossless) (hfields : (shape.element []).toJson.asFields? = some fields)
    (htag : knownTag? fields = some tag) : Json.FiniteFields fields := by
  cases shape with
  | container kind =>
      simp only [Shape.element, Element.toJson, Json.asFields?, Option.some.injEq] at hfields
      rw [← hfields]
      simpa using kind.finiteFields
  | leaf kind =>
      simp only [Shape.element, Element.toJson, Json.asFields?, Option.some.injEq] at hfields
      subst hfields
      cases hkind : kind.tag? with
      | some own => exact Leaf.finiteFields hkind
      | none =>
          cases kind with
          | unknown fields =>
              obtain ⟨name, hname, huntagged⟩ := hshape.unknown fields rfl
              rw [Leaf.fields, knownTag?, required?, fields.single?_fields, hname] at htag
              exact absurd (huntagged.symm.trans htag) (by simp)
          | _ => cases hkind

theorem lossless_patchedShape? (hpatch : protectedField? patch = none)
    (hfinite : Json.FiniteFields patch.fields) (hshape : shape.Lossless)
    (h : patchedShape? shape patch = some patched) : patched.Lossless := by
  obtain ⟨fields, hfields, hread⟩ := Option.bind_eq_some_iff.mp h
  obtain ⟨element, helement, rfl⟩ := Option.map_eq_some_iff.mp hread
  obtain ⟨⟨merged, kind, -, hkind, hpatched⟩ | ⟨tag, merged, htagged, hpatched⟩, -⟩ :=
    Element.ofJson?_cases helement
  · rw [hpatched]
    exact Shape.lossless_of_unknownOfFields? hkind
  · rw [Json.tagged?_object, knownTag?_merge hpatch] at htagged
    obtain ⟨known, htag, heq⟩ := Option.map_eq_some_iff.mp htagged
    cases heq
    have hown := finiteFields_of_knownTag? hshape hfields htag
    exact Shape.lossless_of_ofFields? (finiteFields_merge hown hfinite) hpatched

end Effect

/-! ## Edits -/

namespace Edit

open Json (required?)

def Lossless : Edit → Prop
  | .updateElement _ patch => Json.FiniteFields patch.fields
  | .addElement _ element => element.Lossless
  | .insertElement _ _ element => element.Lossless
  | .removeElement _ => True
  | .moveElement _ _ _ => True
  | .updateTokens _ => True

variable {edit : Edit} {tree after : Element}

private theorem lossless_updateIn {path : ElementPath} {patch : Object}
    (hpatch : Json.FiniteFields patch.fields) (htree : tree.Lossless)
    (h : updateIn path patch tree = .ok after) : after.Lossless := by
  obtain ⟨hprotected, target, shape, hfind, hshape, rfl⟩ := updateIn_eq_ok h
  refine htree.modifyAt fun found hfound hall => ?_
  obtain rfl : target = found := Option.some.inj (hfind.symm.trans hfound)
  exact Element.all_element
    (Effect.lossless_patchedShape? hprotected hpatch hall.shape hshape) hall.children

theorem lossless_insertIn {parent : ElementPath} {index : Nat} {child : Element}
    (hchild : child.Lossless) (htree : tree.Lossless)
    (h : insertIn parent index child tree = .ok after) : after.Lossless := by
  obtain ⟨element, -, -, rfl⟩ := insertIn_eq_ok h
  exact htree.modifyAt fun target _ hall => hall.insertChild index hchild

private theorem lossless_blank : Element.blank.Lossless :=
  .intro ⟨by simp [Element.blank, Element.frame, Element.shape, Shape.floats], nofun⟩ nofun

private theorem lossless_removeIn {path : ElementPath} (htree : tree.Lossless)
    (h : removeIn path tree = .ok after) : after.Lossless := by
  rw [removeIn] at h
  split at h
  · cases h
    exact lossless_blank
  · split at h
    · cases h
    · cases h
      exact htree.eraseAt path

private theorem lossless_moveIn {source target : ElementPath} {index : Nat} (htree : tree.Lossless)
    (h : moveIn source target index tree = .ok after) : after.Lossless := by
  obtain ⟨moved, hfind, hinsert⟩ := moveIn_eq_ok h
  exact lossless_insertIn (htree.find? hfind) (htree.eraseAt source) hinsert

private theorem lossless_onTree (hedit : edit.Lossless) (htree : tree.Lossless)
    (h : edit.onTree tree = .ok after) : after.Lossless := by
  cases edit with
  | updateElement path patch => exact lossless_updateIn hedit htree h
  | addElement parent child => exact lossless_insertIn hedit htree h
  | insertElement parent index child => exact lossless_insertIn hedit htree h
  | removeElement path => exact lossless_removeIn htree h
  | moveElement source target index => exact lossless_moveIn htree h
  | updateTokens tokens =>
      cases h
      exact htree

theorem lossless_onDocument {document result : Document} (hedit : edit.Lossless)
    (hdocument : document.Lossless) (h : edit.onDocument document = .ok result) :
    result.Lossless := by
  rw [onDocument] at h
  split at h
  · cases h
  · next template htemplate =>
      cases h
      exact lossless_onTree hedit hdocument htemplate

/-! ## Edits that have been read -/

private theorem finiteFields_of_asObject? {value : Json} {patch : Object} (hfits : value.Fits)
    (h : value.asObject? = some patch) : Json.FiniteFields patch.fields := by
  cases value with
  | object fields =>
      cases h
      exact hfits.finiteFields.sortedFields
  | _ => cases h

private theorem lossless_of_ofFields? {name : String} {fields : List (String × Json)}
    (hfits : (Json.object fields).Fits) (h : ofFields? name fields = some edit) :
    edit.Lossless := by
  have hvalue {key : String} {value : Json} (hfield : (key, value) ∈ fields) : value.Fits :=
    Json.fits_object.mp hfits _ hfield
  have helement {element : Element}
      (hread : required? Element.ofJson? fields "element" = some element) : element.Lossless := by
    obtain ⟨value, hfield, hread⟩ := Json.exists_of_required? hread
    exact Element.lossless_of_ofJson? (hvalue hfield) hread
  rw [ofFields?.eq_def] at h
  split at h
  case h_7 => cases h
  all_goals simp only [Option.bind_eq_bind, Option.bind_eq_some_iff] at h
  · obtain ⟨path, -, patch, hpatch, heq⟩ := h
    cases heq
    obtain ⟨value, hfield, hread⟩ := Json.exists_of_required? hpatch
    exact finiteFields_of_asObject? (hvalue hfield) hread
  · obtain ⟨parent, -, element, hread, heq⟩ := h
    cases heq
    exact helement hread
  · obtain ⟨parent, -, index, -, element, hread, heq⟩ := h
    cases heq
    exact helement hread
  · obtain ⟨path, -, heq⟩ := h
    cases heq
    trivial
  · obtain ⟨source, -, target, -, index, -, heq⟩ := h
    cases heq
    trivial
  · obtain ⟨tokens, -, heq⟩ := h
    cases heq
    trivial

theorem lossless_of_ofJson? {value : Json} (hfits : value.Fits) (h : ofJson? value = some edit) :
    edit.Lossless := by
  rw [ofJson?.eq_def] at h
  split at h
  · next name parts =>
      obtain ⟨fields, hfields, hread⟩ := Option.bind_eq_some_iff.mp h
      have hparts : parts.Fits := Json.fits_object.mp hfits _ List.mem_cons_self
      exact lossless_of_ofFields? (hparts.asRecord? hfields) hread
  · cases h

end Edit

end DocTemplate

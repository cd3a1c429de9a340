import DocTemplate.Proofs.Edit.Lossless
import DocTemplate.Proofs.Json.Overlay
import DocTemplate.Proofs.Template.Composed

/-!
# Patches over patches

Patching a shape twice comes to the same as patching it once with the second patch laid over the
first: a shape that has been read after the first patch is written with the same values under the
names that were read, and the second patch counts wherever it says anything.
-/

namespace DocTemplate

open Json (single?)

def Shape.fields : Shape → List (String × Json)
  | .container kind => kind.fields ++ [("children", .list [])]
  | .leaf kind => kind.fields

def Shape.statedType (shape : Shape) : Option Json := shape.fields.lookup "type"

theorem Shape.exists_of_tag?_eq_none {shape : Shape} (h : shape.tag? = none) :
    ∃ fields, shape = .leaf (.unknown fields) := by
  cases shape with
  | container kind => cases h
  | leaf kind =>
      cases kind with
      | unknown fields => exact ⟨fields, rfl⟩
      | _ => cases h

namespace Effect

variable {shape patched : Shape} {first second patch : Object} {fields : List (String × Json)}

/-! ## Patched fields -/

theorem protectedField?_eq_none_iff :
    protectedField? patch = none ↔ patch.get? "type" = none ∧ patch.get? "children" = none := by
  simp [protectedField?]

theorem protectedField?_overlay (hfirst : protectedField? first = none)
    (hsecond : protectedField? second = none) :
    protectedField? (.overlay first.fields second) = none := by
  rw [protectedField?_eq_none_iff] at *
  simp [Object.get?_overlay, hfirst, hsecond]

private theorem composed_merge (fields written : List (String × Json)) (first second : Object) :
    Json.Composed (merge fields first) written (merge fields (.overlay first.fields second))
      (merge written second) := by
  intro key
  cases hsecond : second.get? key with
  | some value =>
      have hover : (Object.overlay first.fields second).get? key = some value := by
        rw [Object.get?_overlay, hsecond, Option.some_or]
      exact .inl (by rw [single?_merge_of_some hover, single?_merge_of_some hsecond])
  | none =>
      have hover : (Object.overlay first.fields second).get? key = first.get? key := by
        rw [Object.get?_overlay, hsecond, Option.none_or]
      refine .inr ⟨?_, single?_merge hsecond⟩
      cases hfirst : first.get? key with
      | some value =>
          rw [single?_merge_of_some (hover.trans hfirst), single?_merge_of_some hfirst]
      | none => rw [single?_merge (hover.trans hfirst), single?_merge hfirst]

/-! ## Patched shapes -/

theorem merge_empty (fields : List (String × Json)) : merge fields .empty = fields := by
  simp [merge, Object.empty, Object.get?]

theorem toJson_element (shape : Shape) : (shape.element []).toJson = .object shape.fields := by
  cases shape <;> simp [Shape.element, Shape.fields, Element.toJson, Element.toJsons]

theorem patchedShape?_eq (shape : Shape) (patch : Object) :
    patchedShape? shape patch =
      (Element.ofJson? (.object (merge shape.fields patch))).map Element.shape := by
  rw [patchedShape?, toJson_element]
  rfl

theorem patchedShape?_empty (h : shape.Lossless) : patchedShape? shape .empty = some shape := by
  have hbare : (shape.element []).Lossless := Element.all_element h nofun
  rw [patchedShape?_eq, merge_empty, ← toJson_element, Element.ofJson?_toJson hbare,
    Option.map_some, Shape.shape_element]

theorem single?_type {tag : Tag} (htag : shape.tag? = some tag) :
    single? shape.fields "type" = some (some (.text tag.name)) :=
  Shape.single?_type htag (congrArg Json.asFields? (toJson_element shape))

private theorem single?_children {tag : Tag} (htag : shape.tag? = some tag)
    (hroom : tag.isContainer = true) :
    single? shape.fields "children" = some (some (.list [])) := by
  rw [← Shape.isContainer_of_tag? htag] at hroom
  cases shape with
  | container kind =>
      refine Json.single?_of_filter ?_
      rw [Shape.fields, List.filter_append, kind.avoids_children.filter_eq_nil List.mem_cons_self]
      rfl
  | leaf kind => cases hroom

private theorem patchedShape?_of_tag {tag : Tag} (hpatch : protectedField? patch = none)
    (htag : shape.tag? = some tag) :
    patchedShape? shape patch = Shape.ofFields? tag (merge shape.fields patch) := by
  have hknown : knownTag? (merge shape.fields patch) = some tag := by
    rw [knownTag?_merge hpatch]
    exact knownTag?_of_single? (single?_type htag)
  rw [patchedShape?_eq, Element.ofJson?_of_known hknown]
  cases hread : Shape.ofFields? tag (merge shape.fields patch) with
  | none => rfl
  | some result =>
      cases result with
      | leaf kind => rfl
      | container kind =>
          have hroom := (Shape.isContainer_of_tag? (Shape.tag?_of_ofFields? hread)).symm
          have hchildren : single? (merge shape.fields patch) "children" =
              some (some (.list [])) := by
            rw [single?_merge (protectedField?_eq_none_iff.mp hpatch).2,
              single?_children htag hroom]
          rw [Option.bind_some, Json.defaulted?, hchildren]
          rfl

theorem get?_ofFields_merge (object patch : Object) (key : String) :
    (Object.ofFields (merge object.fields patch)).get? key =
      match patch.get? key with
      | none => object.get? key
      | some value => if value.isNull then none else some value := by
  cases hpatch : patch.get? key with
  | none =>
      have hkept : single? (merge object.fields patch) key = some (object.get? key) :=
        (single?_merge hpatch).trans (object.single?_fields key)
      rw [Object.get?_ofFields_of_single? hkept]
      cases hown : object.get? key with
      | none => rfl
      | some value => rw [Option.map_some, Object.sorted_of_get? hown]
  | some value =>
      rw [Object.get?_ofFields_of_single? (single?_merge_of_some hpatch)]
      dsimp only
      split
      · rfl
      · rw [Option.map_some, Object.sorted_of_get? hpatch]

theorem patchedShape?_unknown {object : Object} (hpatch : protectedField? patch = none)
    (h : (Shape.leaf (.unknown object)).Lossless) :
    patchedShape? (.leaf (.unknown object)) patch =
      some (.leaf (.unknown (.ofFields (merge object.fields patch)))) := by
  obtain ⟨name, hname, huntagged⟩ := h.unknown object rfl
  have hknown : knownTag? (merge object.fields patch) = none := by
    rw [knownTag?_merge hpatch, knownTag?, Json.required?, object.single?_fields, hname]
    exact huntagged
  have hread : unknownOfFields? (merge object.fields patch) =
      some (.unknown (.ofFields (merge object.fields patch))) := by
    rw [unknownOfFields?, get?_ofFields_merge, get?_of_unprotected hpatch, hname]
    simp [Json.asText?, huntagged]
  rw [patchedShape?_eq, Shape.fields, Leaf.fields, Element.ofJson?_of_unknown hknown, hread]
  rfl

private theorem ofFields_merge_overlay (object first second : Object) :
    Object.ofFields (merge object.fields (.overlay first.fields second)) =
      .ofFields (merge (Object.ofFields (merge object.fields first)).fields second) := by
  apply Object.ext_get?
  intro key
  simp only [get?_ofFields_merge, Object.get?_overlay]
  cases second.get? key <;> rfl

/-- After one patch, another one comes to the same as both laid over each other did before. -/
theorem patchedShape?_overlay (hshape : shape.Lossless) (hfinite : Json.FiniteFields first.fields)
    (hfirst : protectedField? first = none) (hsecond : protectedField? second = none)
    (h : patchedShape? shape first = some patched) :
    patchedShape? shape (.overlay first.fields second) = patchedShape? patched second := by
  have hover := protectedField?_overlay hfirst hsecond
  have hpatched := lossless_patchedShape? hfirst hfinite hshape h
  cases htag : shape.tag? with
  | some tag =>
      -- What has been read is written with the same values: this is the empty patch.
      have hkept := tag?_of_patchedShape? hfirst htag h
      have hwritten := patchedShape?_empty hpatched
      rw [patchedShape?_of_tag rfl hkept, merge_empty] at hwritten
      rw [patchedShape?_of_tag hfirst htag] at h
      rw [patchedShape?_of_tag hover htag, patchedShape?_of_tag hsecond hkept]
      exact Shape.ofFields?_composed (composed_merge shape.fields patched.fields first second) h
        hwritten
  | none =>
      obtain ⟨object, rfl⟩ := Shape.exists_of_tag?_eq_none htag
      rw [patchedShape?_unknown hfirst hshape] at h
      cases h
      rw [patchedShape?_unknown hover hshape, patchedShape?_unknown hsecond hpatched,
        ofFields_merge_overlay]

/-! ## Types -/

theorem tag?_patchedShape? (hpatch : protectedField? patch = none) (hshape : shape.Lossless)
    (h : patchedShape? shape patch = some patched) : patched.tag? = shape.tag? := by
  cases htag : shape.tag? with
  | some tag => exact tag?_of_patchedShape? hpatch htag h
  | none =>
      obtain ⟨object, rfl⟩ := Shape.exists_of_tag?_eq_none htag
      rw [patchedShape?_unknown hpatch hshape] at h
      cases h
      rfl

private theorem statedType_of_tag {tag : Tag} (htag : shape.tag? = some tag) :
    shape.statedType = some (.text tag.name) :=
  Json.lookup_of_single? (single?_type htag)

theorem statedType_patchedShape? (hpatch : protectedField? patch = none) (hshape : shape.Lossless)
    (h : patchedShape? shape patch = some patched) :
    patched.statedType = shape.statedType := by
  cases htag : shape.tag? with
  | some tag =>
      rw [statedType_of_tag htag, statedType_of_tag (tag?_of_patchedShape? hpatch htag h)]
  | none =>
      obtain ⟨object, rfl⟩ := Shape.exists_of_tag?_eq_none htag
      rw [patchedShape?_unknown hpatch hshape] at h
      cases h
      have htype := get?_ofFields_merge object patch "type"
      rwa [get?_of_unprotected hpatch] at htype

end Effect

end DocTemplate

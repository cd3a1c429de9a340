import DocTemplate.Edit.Effect
import DocTemplate.Proofs.Template.Codec
import DocTemplate.Proofs.Template.Position

/-!
# Patched elements

A patch that leaves the protected fields alone leaves an element with its tag: the type that is read
back is the type that was written.  So a patched container is a container and keeps its children.
-/

namespace DocTemplate

namespace Effect

/-! ## Fields under a key -/

section Merge

variable {patch : Object} {key : String}

/-- Under each key stands what the patch has there, but for a null, and otherwise what stood there
before. -/
theorem filter_merge (fields : List (String × Json)) (patch : Object) (key : String) :
    (merge fields patch).filter (·.1 == key) =
      match patch.get? key with
      | none => fields.filter (·.1 == key)
      | some value => if value.isNull then [] else [(key, value)] := by
  have hkept : (fields.filter fun field => (patch.get? field.1).isNone).filter (·.1 == key) =
      (fields.filter (·.1 == key)).filter fun _ => (patch.get? key).isNone := by
    rw [List.filter_filter, List.filter_filter]
    apply List.filter_congr
    intro field _
    by_cases heq : field.1 = key
    · simp [heq]
    · simp [beq_eq_false_iff_ne.mpr heq]
  have hadded : (patch.fields.filter fun field => !field.2.isNull).filter (·.1 == key) =
      ((patch.get? key).toList.map (key, ·)).filter fun field => !field.2.isNull := by
    rw [← Object.filter_fields, List.filter_filter, List.filter_filter]
    exact List.filter_congr fun field _ => Bool.and_comm ..
  rw [merge, List.filter_append, hkept, hadded]
  cases patch.get? key with
  | none => simp
  | some value => cases hnull : value.isNull <;> simp [hnull]

theorem single?_merge {fields : List (String × Json)} (h : patch.get? key = none) :
    Json.single? (merge fields patch) key = Json.single? fields key := by
  rw [Json.single?, Json.single?, filter_merge, h]

theorem single?_merge_of_some {fields : List (String × Json)} {value : Json}
    (h : patch.get? key = some value) :
    Json.single? (merge fields patch) key =
      some (if value.isNull then none else some value) := by
  rw [Json.single?, filter_merge, h]
  cases hnull : value.isNull <;> simp [hnull]

end Merge

theorem get?_of_unprotected {patch : Object} (h : protectedField? patch = none) :
    patch.get? "type" = none := by
  have := List.find?_eq_none.mp h "type" (by simp)
  simpa using this

/-! ## Patched shapes -/

theorem tag?_of_patchedShape? {shape patched : Shape} {patch : Object} {tag : Tag}
    (hpatch : protectedField? patch = none) (htag : shape.tag? = some tag)
    (h : patchedShape? shape patch = some patched) : patched.tag? = some tag := by
  obtain ⟨fields, hfields, hread⟩ := Option.bind_eq_some_iff.mp h
  obtain ⟨element, helement, rfl⟩ := Option.map_eq_some_iff.mp hread
  refine Element.tag?_of_ofJson? (knownTag?_of_single? ?_) helement
  rw [single?_merge (get?_of_unprotected hpatch), Shape.single?_type htag hfields]

theorem isContainer_of_patchedShape? {shape patched : Shape} {patch : Object}
    (hpatch : protectedField? patch = none) (hshape : shape.isContainer = true)
    (h : patchedShape? shape patch = some patched) : patched.isContainer = true := by
  cases shape with
  | leaf kind => cases hshape
  | container kind =>
      have htag := tag?_of_patchedShape? hpatch rfl h
      have hkind : (Shape.container kind).isContainer = kind.tag.isContainer :=
        Shape.isContainer_of_tag? rfl
      rw [Shape.isContainer_of_tag? htag, ← hkind]
      rfl

end Effect

end DocTemplate

import DocTemplate.Edit.Basic
import DocTemplate.Proofs.Template.Order
import DocTemplate.Proofs.Template.PathGrammar

/-!
# Edits written and read

An edit is an object with a single field, which is named for the kind of the edit and holds its
parts.  It is read back as it was, with any patch and any tokens, as long as its paths and its index
fit the bound of indices and the element it brings can be written without loss.
-/

namespace DocTemplate

open Json (required? required?_of_filter Stable StableFields stable_asObject?)

/-! ## Parts -/

private theorem Edit.asIndex?_ofNat {index : Nat} (h : index < Text.indexBound) :
    asIndex? (.ofNat index) = some index := by
  have hbound : (index : Int) < Text.indexBound := Int.ofNat_lt.mpr h
  rw [asIndex?, Json.ofNat, Json.asNat?, if_pos ⟨Int.natCast_nonneg _, hbound⟩]
  rfl

private theorem Edit.stable_asIndex? : Stable asIndex? := by
  intro value index h
  cases value with
  | number _ => exact h
  | _ => cases h

private theorem ElementPath.stable_ofJson? : Stable ofJson? := by
  intro value path h
  cases value with
  | text _ => exact h
  | _ => cases h

/-! ## Edits -/

namespace Edit

def paths : Edit → List ElementPath
  | .updateElement path _ => [path]
  | .addElement parent _ => [parent]
  | .insertElement parent _ _ => [parent]
  | .removeElement path => [path]
  | .moveElement source target _ => [source, target]
  | .updateTokens _ => []

def index? : Edit → Option Nat
  | .insertElement _ index _ => some index
  | .moveElement _ _ index => some index
  | _ => none

def element? : Edit → Option Element
  | .addElement _ element => some element
  | .insertElement _ _ element => some element
  | _ => none

/-- What is written of the edit can be read back; there is no condition on patches and tokens. -/
structure Writable (edit : Edit) : Prop where
  paths : ∀ path ∈ edit.paths, ∀ index ∈ path, index < Text.indexBound
  index : ∀ index ∈ edit.index?, index < Text.indexBound
  element : ∀ element ∈ edit.element?, element.Lossless

private theorem Writable.path {edit : Edit} (h : edit.Writable) {path : ElementPath}
    (hpath : path ∈ edit.paths) : ElementPath.ofJson? path.toJson = some path :=
  (ElementPath.readsBack (h.paths path hpath)).value

private theorem ofJson?_tagged (name : String) (fields : List (String × Json)) :
    ofJson? (tagged name fields) = ofFields? name fields := rfl

theorem ofJson?_toJson {edit : Edit} (h : edit.Writable) : ofJson? edit.toJson = some edit := by
  cases edit with
  | updateElement path patch =>
      rw [toJson, ofJson?_tagged, ofFields?,
        required?_of_filter path.toJson (by simp), h.path (by simp [paths]),
        required?_of_filter patch.toJson (by simp), Json.asObject?_toJson]
      rfl
  | addElement parent element =>
      rw [toJson, ofJson?_tagged, ofFields?,
        required?_of_filter parent.toJson (by simp), h.path (by simp [paths]),
        required?_of_filter element.toJson (by simp),
        Element.ofJson?_toJson (h.element element rfl)]
      rfl
  | insertElement parent index element =>
      rw [toJson, ofJson?_tagged, ofFields?,
        required?_of_filter parent.toJson (by simp), h.path (by simp [paths]),
        required?_of_filter (.ofNat index) (by simp), asIndex?_ofNat (h.index index rfl),
        required?_of_filter element.toJson (by simp),
        Element.ofJson?_toJson (h.element element rfl)]
      rfl
  | removeElement path =>
      rw [toJson, ofJson?_tagged, ofFields?,
        required?_of_filter path.toJson (by simp), h.path (by simp [paths])]
      rfl
  | moveElement source target index =>
      rw [toJson, ofJson?_tagged, ofFields?,
        required?_of_filter source.toJson (by simp), h.path (by simp [paths]),
        required?_of_filter target.toJson (by simp), h.path (by simp [paths]),
        required?_of_filter (.ofNat index) (by simp), asIndex?_ofNat (h.index index rfl)]
      rfl
  | updateTokens tokens =>
      rw [toJson, ofJson?_tagged, ofFields?,
        required?_of_filter tokens.toJson (by simp), tokens.ofJson?_toJson]
      rfl

private theorem stable_ofFields? (name : String) : StableFields (ofFields? name) := by
  intro fields ordered edit horder h
  rw [ofFields?.eq_def] at h ⊢
  split at h
  case h_7 => cases h
  · exact (ElementPath.stable_ofJson?.required?.bind fun _ => stable_asObject?.required?.bind
      fun _ => .pure _) fields ordered edit horder h
  · exact (ElementPath.stable_ofJson?.required?.bind fun _ => Element.stable_ofJson?.required?.bind
      fun _ => .pure _) fields ordered edit horder h
  · exact (ElementPath.stable_ofJson?.required?.bind fun _ => stable_asIndex?.required?.bind
      fun _ => Element.stable_ofJson?.required?.bind fun _ => .pure _) fields ordered edit horder h
  · exact (ElementPath.stable_ofJson?.required?.bind fun _ => .pure _) fields ordered edit horder h
  · exact (ElementPath.stable_ofJson?.required?.bind fun _ =>
      ElementPath.stable_ofJson?.required?.bind fun _ => stable_asIndex?.required?.bind
        fun _ => .pure _) fields ordered edit horder h
  · exact (DesignTokens.stable_ofJson?.required?.bind fun _ => .pure _) fields ordered edit horder h

theorem stable_ofJson? : Stable ofJson? := by
  intro value edit h
  rw [ofJson?.eq_def] at h
  split at h
  · next name parts =>
      exact (stable_ofFields? name).stable (keys name) parts edit h
  · cases h

/-! ## Lists of edits -/

theorem listOfJson?_toJson {edits : List Edit} (h : ∀ edit ∈ edits, edit.Writable) :
    listOfJson? (.list (edits.map toJson)) = some edits :=
  mapM_map_eq_some fun edit hedit => ofJson?_toJson (h edit hedit)

theorem stable_listOfJson? : Stable listOfJson? := stable_ofJson?.list

end Edit

end DocTemplate

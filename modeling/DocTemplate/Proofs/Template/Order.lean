import DocTemplate.Proofs.Template.Reading

/-!
# The order of fields

What has been read from a value is also read from the value with its fields in order: a record is
read name by name, a name that is looked at stands there once, and free maps are put in order
anyway.  A record without names keeps its order, and only its values are put in order.
-/

namespace DocTemplate

open Json (required? optional? defaulted? sortedFields)

/-! ## Fields in order -/

theorem lookup_eq_none_of_lt {α : Type} {key : String} {entries : List (String × α)}
    (h : ∀ entry ∈ entries, key < entry.1) : entries.lookup key = none := by
  refine List.lookup_eq_none_iff.mpr fun entry hentry => ?_
  exact bne_iff_ne.mpr (String.ne_of_lt (h entry hentry))

theorem lookup_eq_none_of_lt_head {α : Type} {key : String} {head : String × α}
    {rest : List (String × α)} (h : Ascending (head :: rest)) (hlt : key < head.1) :
    (head :: rest).lookup key = none := by
  obtain ⟨hhead, -⟩ := List.pairwise_cons.mp h
  refine lookup_eq_none_of_lt fun entry hentry => ?_
  rcases List.mem_cons.mp hentry with rfl | hmem
  · exact hlt
  · exact String.lt_trans hlt (hhead entry.1 (List.mem_map_of_mem hmem))

private theorem lookup_insertAbsent {α : Type} (key name : String) (value : α)
    {entries : List (String × α)} (h : Ascending entries) :
    (insertAbsent key value entries).lookup name =
      (entries.lookup name).or (if name = key then some value else none) := by
  induction entries with
  | nil =>
      by_cases hname : name = key
      · simp [insertAbsent, hname]
      · have hne : (name == key) = false := beq_eq_false_iff_ne.mpr hname
        rw [insertAbsent, List.lookup_cons, hne, if_neg hname]
        rfl
  | cons head rest ih =>
      obtain ⟨first, given⟩ := head
      obtain ⟨hhead, hrest⟩ := List.pairwise_cons.mp h
      rw [insertAbsent]
      split
      · next hlt =>
          have hnone := lookup_eq_none_of_lt_head h hlt
          by_cases hname : name = key
          · subst hname
            simp [hnone]
          · have hne : (name == key) = false := beq_eq_false_iff_ne.mpr hname
            rw [List.lookup_cons, hne, if_neg hname, Option.or_none]
      · split
        · next heq =>
            subst heq
            by_cases hname : name = key <;> simp [hname]
        · next hne =>
            rw [List.lookup_cons, List.lookup_cons, ih hrest]
            cases name == first <;> rfl

namespace Json

theorem lookup_sortedFields (fields : List (String × Json)) (key : String) :
    (sortedFields fields).lookup key =
      ((fields.filter (·.1 == key)).getLast?).map (·.2.sorted) := by
  induction fields with
  | nil => rfl
  | cons head rest ih =>
      obtain ⟨name, value⟩ := head
      rw [sortedFields, lookup_insertAbsent _ _ _ (ascending_sortedFields rest), ih]
      by_cases hname : key = name
      · subst hname
        cases hlast : (rest.filter (·.1 == key)).getLast? <;> simp [List.getLast?_cons, hlast]
      · have hne : name ≠ key := Ne.symm hname
        simp [hname, hne]

theorem single?_sortedFields {fields : List (String × Json)} {key : String} {given : Option Json}
    (h : single? fields key = some given) :
    single? (sortedFields fields) key = some (given.map sorted) := by
  rw [single?_of_ascending (ascending_sortedFields fields), lookup_sortedFields]
  rw [single?] at h
  split at h
  · next hfilter =>
      cases h
      rw [hfilter]
      rfl
  · next name value hfilter =>
      cases h
      rw [hfilter]
      rfl
  · cases h

/-- Under every name that is given at most once stands the same value in order. -/
def InOrder (fields ordered : List (String × Json)) : Prop :=
  ∀ key given, single? fields key = some given → single? ordered key = some (given.map sorted)

theorem inOrder_sortedFields (fields : List (String × Json)) :
    InOrder fields (sortedFields fields) :=
  fun _ _ => single?_sortedFields

private theorem inOrder_map (fields : List (String × Json)) :
    InOrder fields (fields.map fun field => (field.1, field.2.sorted)) := by
  intro key given h
  have hfilter : (fields.map fun field => (field.1, field.2.sorted)).filter (·.1 == key) =
      (fields.filter (·.1 == key)).map fun field => (field.1, field.2.sorted) := List.filter_map ..
  rw [single?] at h
  rw [single?, hfilter]
  split at h
  · next hfields =>
      cases h
      rw [hfields]
      rfl
  · next name value hfields =>
      cases h
      rw [hfields]
      rfl
  · cases h

/-- What is read from a value is read from it in order. -/
def Stable {α : Type} (read : Json → Option α) : Prop :=
  ∀ value given, read value = some given → read value.sorted = some given

def StableFields {α : Type} (read : List (String × Json) → Option α) : Prop :=
  ∀ fields ordered given, InOrder fields ordered → read fields = some given →
    read ordered = some given

section Stable

variable {α : Type} {read : Json → Option α} {key : String} {missing : α}

/-- Only for what has been read the reader has to be stable. -/
theorem InOrder.required? {fields ordered : List (String × Json)} {given : α}
    (horder : InOrder fields ordered) (h : required? read fields key = some given)
    (hread : ∀ value, read value = some given → read value.sorted = some given) :
    Json.required? read ordered key = some given := by
  obtain ⟨found, hsingle, hvalue⟩ := Option.bind_eq_some_iff.mp h
  obtain ⟨value, rfl, hgiven⟩ := Option.bind_eq_some_iff.mp hvalue
  simp only [Json.required?, horder key _ hsingle]
  exact hread value hgiven

theorem InOrder.defaulted? {fields ordered : List (String × Json)} {given : α}
    (horder : InOrder fields ordered) (h : defaulted? read missing fields key = some given)
    (hread : ∀ value, read value = some given → read value.sorted = some given) :
    Json.defaulted? read missing ordered key = some given := by
  obtain ⟨found, hsingle, hvalue⟩ := Option.bind_eq_some_iff.mp h
  simp only [Json.defaulted?, horder key _ hsingle]
  cases found with
  | none => exact hvalue
  | some value => exact hread value hvalue

theorem Stable.required? (h : Stable read) : StableFields (required? read · key) :=
  fun _ _ given horder hread => horder.required? hread fun value => h value given

theorem Stable.defaulted? (h : Stable read) : StableFields (defaulted? read missing · key) :=
  fun _ _ given horder hread => horder.defaulted? hread fun value => h value given

theorem Stable.optional? (h : Stable read) : StableFields (optional? read · key) := by
  intro fields ordered given horder hread
  obtain ⟨found, hsingle, hvalue⟩ := Option.bind_eq_some_iff.mp hread
  simp only [Json.optional?, horder key _ hsingle]
  cases found with
  | none => exact hvalue
  | some value =>
      cases value with
      | null => exact hvalue
      | _ =>
          obtain ⟨item, hitem, rfl⟩ := Option.map_eq_some_iff.mp hvalue
          have hsorted := h _ _ hitem
          simp only [Json.sorted, Option.map_some] at hsorted ⊢
          exact Option.map_eq_some_iff.mpr ⟨item, hsorted, rfl⟩

end Stable

/-! ## Values in order -/

theorem stable_asText? : Stable asText? := by
  intro value given h
  cases value with
  | text _ => exact h
  | _ => cases h

theorem stable_asBool? : Stable asBool? := by
  intro value given h
  cases value with
  | bool _ => exact h
  | _ => cases h

theorem stable_asFloat? : Stable asFloat? := by
  intro value given h
  cases value with
  | number _ => exact h
  | _ => cases h

private theorem stable_asUInt32? : Stable asUInt32? := by
  intro value given h
  cases value with
  | number _ => exact h
  | _ => cases h

theorem sortedFields_idem (fields : List (String × Json)) :
    sortedFields (sortedFields fields) = sortedFields fields :=
  sortedFields_of_ordered _ (ascending_sortedFields fields) (orderedFields_sortedFields fields)

theorem stable_asObject? : Stable asObject? := by
  intro value given h
  cases value with
  | object fields =>
      cases h
      exact congrArg some (Object.ext_fields (sortedFields_idem fields))
  | _ => cases h

theorem stable_choice? {α : Type} (choices : List α) (name : α → String) :
    Stable (choice? choices name) := by
  intro value given h
  cases value with
  | text _ => exact h
  | object fields =>
      -- only an object with a single field makes a choice, and it is in order as it is
      match fields, h with
      | [(_, .null)], h => exact h
      | [(_, .object [])], h => exact h
  | _ => cases h

theorem sortedItems_eq_map (items : List Json) : sortedItems items = items.map sorted := by
  induction items with
  | nil => rfl
  | cons item rest ih => rw [sortedItems, ih, List.map_cons]

theorem positional?_sortedItems {keys : List String} {items : List Json}
    {fields : List (String × Json)} (h : positional? keys items = some fields) :
    ∃ ordered, positional? keys (sortedItems items) = some ordered ∧ InOrder fields ordered := by
  rw [eq_zip_of_positional? h]
  rw [positional?] at h
  split at h
  · next hlength =>
      have horder := inOrder_map (keys.zip items)
      rw [sortedItems_eq_map, positional?, List.length_map, if_pos hlength, List.zip_map_right]
      exact ⟨_, rfl, horder⟩
  · cases h

theorem Stable.typed? {τ : Type} {type? : Json → Option τ} {keys : τ → List String} {type : τ}
    {value : Json} {fields : List (String × Json)} (hstable : Stable type?)
    (h : value.typed? type? keys = some (type, fields)) :
    ∃ ordered, value.sorted.typed? type? keys = some (type, ordered) ∧ InOrder fields ordered := by
  cases value with
  | object given =>
      obtain ⟨stated, hstated, heq⟩ := Option.map_eq_some_iff.mp h
      cases heq
      have horder := inOrder_sortedFields fields
      have hordered := hstable.required? fields _ type horder hstated
      refine ⟨_, ?_, horder⟩
      rw [sorted]
      exact Option.map_eq_some_iff.mpr ⟨type, hordered, rfl⟩
  | list items =>
      cases items with
      | nil => cases h
      | cons first items =>
          simp only [Json.typed?, Option.bind_eq_bind, Option.bind_eq_some_iff] at h
          obtain ⟨stated, hstated, given, hgiven, heq⟩ := h
          cases heq
          obtain ⟨ordered, hordered, horder⟩ := positional?_sortedItems hgiven
          refine ⟨ordered, ?_, horder⟩
          rw [sorted, sortedItems, Json.typed?, hstable first type hstated]
          simp only [Option.bind_eq_bind, Option.bind_some, hordered]
          rfl
  | _ => cases h

theorem StableFields.stable {α : Type} {read : List (String × Json) → Option α}
    (keys : List String) (h : StableFields read) :
    Stable fun value => (value.asRecord? keys).bind read := by
  intro value given hread
  obtain ⟨fields, hfields, hgiven⟩ := Option.bind_eq_some_iff.mp hread
  cases value with
  | object all =>
      cases hfields
      exact h _ _ given (inOrder_sortedFields _) hgiven
  | list items =>
      obtain ⟨ordered, hordered, horder⟩ := positional?_sortedItems hfields
      refine Option.bind_eq_some_iff.mpr ⟨ordered, ?_, h fields ordered given horder hgiven⟩
      rw [sorted]
      exact hordered
  | _ => cases hfields

theorem StableFields.bind {α β : Type} {first : List (String × Json) → Option α}
    {rest : α → List (String × Json) → Option β} (hfirst : StableFields first)
    (hrest : ∀ given, StableFields (rest given)) :
    StableFields fun fields => (first fields).bind fun given => rest given fields := by
  intro fields ordered result horder h
  obtain ⟨given, hgiven, hresult⟩ := Option.bind_eq_some_iff.mp h
  exact Option.bind_eq_some_iff.mpr ⟨given, hfirst fields ordered given horder hgiven,
    hrest given fields ordered result horder hresult⟩

theorem StableFields.pure {α : Type} (given : α) : StableFields fun _ => some given :=
  fun _ _ _ _ h => h

theorem mapM_map_sorted {α : Type} {read : Json → Option α} {items : List Json} {results : List α}
    (h : items.mapM read = some results)
    (hread : ∀ item ∈ items, ∀ result ∈ results, read item = some result →
      read item.sorted = some result) :
    (items.map sorted).mapM read = some results := by
  induction items generalizing results with
  | nil => exact h
  | cons item rest ih =>
      rw [List.mapM_cons] at h
      obtain ⟨first, hfirst, hothers⟩ := Option.bind_eq_some_iff.mp h
      obtain ⟨others, hmap, heq⟩ := Option.bind_eq_some_iff.mp hothers
      cases heq
      rw [List.map_cons, List.mapM_cons,
        hread item List.mem_cons_self first List.mem_cons_self hfirst,
        ih hmap fun item hitem result hresult =>
          hread item (List.mem_cons_of_mem _ hitem) result (List.mem_cons_of_mem _ hresult)]
      rfl

theorem Stable.list {α : Type} {read : Json → Option α} (h : Stable read) :
    Stable fun value => value.asList?.bind fun items => items.mapM read := by
  intro value results hread
  cases value with
  | list items =>
      have hitems := mapM_map_sorted hread fun item _ result _ => h item result
      rwa [← sortedItems_eq_map] at hitems
  | _ => cases hread

end Json

open Json (Stable StableFields InOrder inOrder_sortedFields stable_asText? stable_asBool?
  stable_asFloat? stable_asUInt32? stable_asObject? stable_choice?)

/-! ## Records in order -/

theorem DataBinding.stable_ofJson? : Stable ofJson? :=
  StableFields.stable keys <| stable_asText?.required?.bind fun _ =>
    stable_asText?.optional?.bind fun _ => stable_asText?.optional?.bind fun _ => .pure _

theorem Condition.stable_ofJson? : Stable ofJson? :=
  StableFields.stable keys <| stable_asText?.required?.bind fun _ =>
    stable_asBool?.defaulted?.bind fun _ => .pure _

private theorem Column.stable_ofJson? : Stable ofJson? :=
  StableFields.stable keys <| stable_asText?.required?.bind fun _ =>
    stable_asText?.optional?.bind fun _ => (stable_choice? _ _).optional?.bind fun _ =>
      DataBinding.stable_ofJson?.optional?.bind fun _ => .pure _

private theorem stable_columnsOfJson? : Stable columnsOfJson? := Column.stable_ofJson?.list

private theorem Attributes.stable_ofFields? : StableFields ofFields? :=
  stable_asText?.optional?.bind fun _ => stable_asObject?.optional?.bind fun _ =>
    Condition.stable_ofJson?.optional?.bind fun _ => .pure _

private theorem Flow.stable_ofFields? : StableFields ofFields? :=
  (stable_choice? _ _).defaulted?.bind fun _ => stable_asFloat?.optional?.bind fun _ =>
    (stable_choice? _ _).optional?.bind fun _ => (stable_choice? _ _).optional?.bind fun _ =>
      stable_asBool?.optional?.bind fun _ => .pure _

theorem Cells.stable_ofFields? : StableFields ofFields? :=
  stable_asUInt32?.required?.bind fun _ => stable_asUInt32?.optional?.bind fun _ =>
    stable_asFloat?.optional?.bind fun _ => .pure _

private theorem Picture.stable_ofFields? : StableFields ofFields? :=
  stable_asText?.optional?.bind fun _ => DataBinding.stable_ofJson?.optional?.bind fun _ =>
    stable_asText?.optional?.bind fun _ => (stable_choice? _ _).optional?.bind fun _ =>
      stable_asFloat?.optional?.bind fun _ => .pure _

private theorem Rule.stable_ofFields? : StableFields ofFields? :=
  stable_asFloat?.optional?.bind fun _ => stable_asText?.optional?.bind fun _ => .pure _

private theorem Shape.stable_ofFields? (tag : Tag) : StableFields (ofFields? tag) := by
  cases tag with
  | frame =>
      exact Attributes.stable_ofFields?.bind fun _ => stable_asBool?.optional?.bind fun _ => .pure _
  | stack =>
      exact Attributes.stable_ofFields?.bind fun _ => Flow.stable_ofFields?.bind fun _ => .pure _
  | grid =>
      exact Attributes.stable_ofFields?.bind fun _ => Cells.stable_ofFields?.bind fun _ => .pure _
  | text =>
      exact Attributes.stable_ofFields?.bind fun _ => stable_asText?.optional?.bind fun _ =>
        DataBinding.stable_ofJson?.optional?.bind fun _ => .pure _
  | image =>
      exact Attributes.stable_ofFields?.bind fun _ => Picture.stable_ofFields?.bind fun _ => .pure _
  | table =>
      exact Attributes.stable_ofFields?.bind fun _ => stable_columnsOfJson?.defaulted?.bind fun _ =>
        DataBinding.stable_ofJson?.required?.bind fun _ => .pure _
  | divider =>
      exact Attributes.stable_ofFields?.bind fun _ => Rule.stable_ofFields?.bind fun _ => .pure _
  | repeater =>
      exact stable_asObject?.optional?.bind fun _ =>
        Condition.stable_ofJson?.optional?.bind fun _ =>
          DataBinding.stable_ofJson?.required?.bind fun _ => .pure _

/-! ## Elements in order -/

private theorem Tag.stable_ofJson? : Stable ofJson? := by
  intro value tag h
  cases value with
  | text _ => exact h
  | number _ => exact h
  | _ => cases h

/-- The type that counts is the last, which is the only one in order. -/
theorem knownTag?_sortedFields_of_unknown {fields : List (String × Json)} {kind : Leaf}
    (h : unknownOfFields? fields = some kind) : knownTag? (sortedFields fields) = none := by
  obtain ⟨-, name, hname, huntagged⟩ := unknownOfFields?_eq_some h
  have hsingle := (Object.ofFields fields).single?_fields "type"
  rw [hname] at hsingle
  rw [knownTag?, required?]
  exact (congrArg (Option.bind · _) hsingle).trans huntagged

private theorem unknownOfFields?_sortedFields (fields : List (String × Json)) :
    unknownOfFields? (sortedFields fields) = unknownOfFields? fields := by
  have hobject : Object.ofFields (sortedFields fields) = Object.ofFields fields :=
    Object.ext_fields (Json.sortedFields_idem fields)
  rw [unknownOfFields?, unknownOfFields?, hobject]

namespace Element

private theorem childrenOfJson?_sorted {value : Json} {children : List Element}
    (h : childrenOfJson? value = some children)
    (hread : ∀ item, ∀ child ∈ children, ofJson? item = some child →
      ofJson? item.sorted = some child) :
    childrenOfJson? value.sorted = some children := by
  cases value with
  | list items =>
      simp only [childrenOfJson?, ofJsons?_eq_mapM] at h
      simp only [Json.sorted, childrenOfJson?, ofJsons?_eq_mapM, Json.sortedItems_eq_map]
      exact Json.mapM_map_sorted h fun item _ child hchild => hread item child hchild
  | _ => cases h

theorem stable_ofJson? : Stable ofJson? := by
  intro value element h
  induction element using inductionOnChildren generalizing value with
  | step element ih =>
      cases htagged : value.tagged? with
      | none =>
          rw [ofJson?_of_untagged htagged] at h
          obtain ⟨kind, hkind, rfl⟩ := Option.map_eq_some_iff.mp h
          obtain ⟨fields, hfields, hread⟩ := Option.bind_eq_some_iff.mp hkind
          cases value with
          | object given =>
              cases hfields
              rw [Json.sorted, ofJson?_of_unknown (knownTag?_sortedFields_of_unknown hread),
                unknownOfFields?_sortedFields, hread]
              rfl
          | _ => cases hfields
      | some known =>
          obtain ⟨tag, fields⟩ := known
          obtain ⟨ordered, hordered, horder⟩ := Tag.stable_ofJson?.typed? htagged
          rw [ofJson?_of_tagged htagged] at h
          obtain ⟨shape, hshape, hholding⟩ := Option.bind_eq_some_iff.mp h
          rw [ofJson?_of_tagged hordered,
            Shape.stable_ofFields? tag fields ordered shape horder hshape, Option.bind_some]
          cases shape with
          | leaf kind => exact hholding
          | container kind =>
              obtain ⟨children, hchildren, rfl⟩ := Option.map_eq_some_iff.mp hholding
              refine Option.map_eq_some_iff.mpr ⟨children, horder.defaulted? hchildren ?_, rfl⟩
              exact fun value hvalue => childrenOfJson?_sorted hvalue
                fun item child hchild => ih child hchild item

end Element

/-! ## Documents in order -/

private theorem insertAbsent_map {α β : Type} (write : α → β) (key : String) (value : α)
    (entries : List (String × α)) :
    insertAbsent key (write value) (entries.map fun entry => (entry.1, write entry.2)) =
      (insertAbsent key value entries).map fun entry => (entry.1, write entry.2) := by
  induction entries with
  | nil => rfl
  | cons head rest ih =>
      simp only [List.map_cons, insertAbsent, ih]
      split
      · rfl
      · split <;> rfl

private theorem Json.sortedFields_map_text (entries : List (String × String)) :
    sortedFields (entries.map fun entry => (entry.1, Json.text entry.2)) =
      (sortEntries entries).map fun entry => (entry.1, Json.text entry.2) := by
  induction entries with
  | nil => rfl
  | cons head rest ih =>
      simp only [List.map_cons, sortedFields, Json.sorted, ih, sortEntries]
      exact insertAbsent_map Json.text head.1 head.2 _

private theorem Json.eq_map_text_of_mapM {fields : List (String × Json)}
    {entries : List (String × String)} {read : String × Json → Option (String × String)}
    (hread : ∀ key value, read (key, value) = value.asText?.map fun text => (key, text))
    (h : fields.mapM read = some entries) :
    fields = entries.map fun entry => (entry.1, Json.text entry.2) := by
  induction fields generalizing entries with
  | nil =>
      cases h
      rfl
  | cons head rest ih =>
      obtain ⟨key, value⟩ := head
      rw [List.mapM_cons] at h
      obtain ⟨first, hfirst, hothers⟩ := Option.bind_eq_some_iff.mp h
      obtain ⟨others, hmap, heq⟩ := Option.bind_eq_some_iff.mp hothers
      cases heq
      obtain ⟨text, htext, rfl⟩ := Option.map_eq_some_iff.mp ((hread key value).symm.trans hfirst)
      cases value with
      | text _ =>
          cases htext
          rw [List.map_cons, ← ih hmap]
      | _ => cases htext

private theorem Json.stable_asTextMap? : Stable asTextMap? := by
  intro value map h
  cases value with
  | object fields =>
      simp only [asTextMap?, asFields?, Option.bind_eq_bind, Option.bind_some,
        Option.bind_eq_some_iff] at h
      obtain ⟨entries, hmap, heq⟩ := h
      cases heq
      rw [eq_map_text_of_mapM (fun _ _ => rfl) hmap, sorted, sortedFields_map_text,
        asTextMap?_map_text]
      exact congrArg some (KeyMap.ofList_entries (.ofList entries))
  | _ => cases h

theorem DesignTokens.stable_ofJson? : Stable ofJson? :=
  StableFields.stable keys <| Json.stable_asTextMap?.defaulted?.bind fun _ =>
    Json.stable_asTextMap?.defaulted?.bind fun _ => .pure _

theorem Document.stable_ofJson? : Stable ofJson? :=
  StableFields.stable keys <| Element.stable_ofJson?.required?.bind fun _ =>
    DesignTokens.stable_ofJson?.defaulted?.bind fun _ => .pure _

end DocTemplate

import DocTemplate.Json.Fields

/-!
# Records read back

A record is read name by name.  Fields of other names around it change nothing, and what has been
written under a name is what is read under it; what is read under a name is the value of some field.
-/

namespace DocTemplate

namespace Json

variable {α : Type} {read : Json → Option α} {write : α → Json} {key : String}
  {fields first second front middle back : List (String × Json)} {names : List String}

/-! ## Fields of other names -/

def Avoids (names : List String) (fields : List (String × Json)) : Prop :=
  ∀ field ∈ fields, field.1 ∉ names

@[simp] theorem avoids_nil : Avoids names [] := fun _ hfield => nomatch hfield

@[simp] theorem avoids_cons {value : Json} :
    Avoids names ((key, value) :: fields) ↔ key ∉ names ∧ Avoids names fields := by
  simp [Avoids]

@[simp] theorem avoids_append :
    Avoids names (first ++ second) ↔ Avoids names first ∧ Avoids names second := by
  simp only [Avoids, List.mem_append, or_imp, forall_and]

@[simp] theorem avoids_optionalField {value : Option α} (h : key ∉ names) :
    Avoids names (optionalField write key value) := by
  cases value <;> simp [optionalField, h]

theorem Avoids.filter_eq_nil (h : Avoids names fields) (hkey : key ∈ names) :
    fields.filter (·.1 == key) = [] := by
  refine List.filter_eq_nil_iff.mpr fun field hfield heq => h field hfield ?_
  rwa [eq_of_beq heq]

/-! ## Records that are read alike -/

/-- The fields under these names are the same to a reader. -/
def AgreeOn (names : List String) (first second : List (String × Json)) : Prop :=
  ∀ name ∈ names, single? first name = single? second name

theorem AgreeOn.trans {third : List (String × Json)} (h : AgreeOn names first second)
    (hnext : AgreeOn names second third) : AgreeOn names first third :=
  fun name hname => (h name hname).trans (hnext name hname)

theorem AgreeOn.mono {fewer : List String} (h : AgreeOn names first second)
    (hfewer : fewer ⊆ names) : AgreeOn fewer first second :=
  fun name hname => h name (hfewer hname)

theorem agreeOn_front (hback : Avoids names back) : AgreeOn names (front ++ back) front := by
  intro name hname
  rw [single?, single?, List.filter_append, hback.filter_eq_nil hname, List.append_nil]

theorem agreeOn_back (front : List (String × Json)) (hfront : Avoids names front) :
    AgreeOn names (front ++ back) back := by
  intro name hname
  rw [single?, single?, List.filter_append, hfront.filter_eq_nil hname, List.nil_append]

theorem agreeOn_middle (hfront : Avoids names front) (hback : Avoids names back) :
    AgreeOn names (front ++ middle ++ back) middle :=
  (agreeOn_front hback).trans (agreeOn_back front hfront)

theorem required?_congr (h : single? first key = single? second key) :
    required? read first key = required? read second key := by
  rw [required?, required?, h]

theorem optional?_congr (h : single? first key = single? second key) :
    optional? read first key = optional? read second key := by
  rw [optional?, optional?, h]

theorem defaulted?_congr {missing : α} (h : single? first key = single? second key) :
    defaulted? read missing first key = defaulted? read missing second key := by
  rw [defaulted?, defaulted?, h]

/-! ## Fields as written -/

@[simp] theorem filter_optionalField (write : α → Json) (name : String) (value : Option α)
    {key : String} (h : name ≠ key) :
    (optionalField write name value).filter (·.1 == key) = [] := by
  cases value <;> simp [optionalField, h]

@[simp] theorem filter_optionalField_self (write : α → Json) (key : String) (value : Option α) :
    (optionalField write key value).filter (·.1 == key) = optionalField write key value := by
  cases value <;> simp [optionalField]

theorem single?_of_filter {value : Json} (h : fields.filter (·.1 == key) = [(key, value)]) :
    single? fields key = some (some value) := by
  rw [single?, h]

theorem required?_of_filter (value : Json) (h : fields.filter (·.1 == key) = [(key, value)]) :
    required? read fields key = read value := by
  rw [required?, single?_of_filter h]
  rfl

theorem defaulted?_of_filter (value : Json) {missing : α}
    (h : fields.filter (·.1 == key) = [(key, value)]) :
    defaulted? read missing fields key = read value := by
  rw [defaulted?, single?_of_filter h]
  rfl

theorem optional?_of_filter (write : α → Json) (value : Option α)
    (h : fields.filter (·.1 == key) = optionalField write key value) (hnull : read .null = none)
    (hread : ∀ given ∈ value, read (write given) = some given) :
    optional? read fields key = some value := by
  cases value with
  | none =>
      rw [optional?, single?, h]
      rfl
  | some given =>
      have hgiven : read (write given) = some given := hread given rfl
      rw [optional?, single?_of_filter h]
      cases hwritten : write given <;> simp_all

/-! ## Fields as read -/

theorem lookup_eq_head? (fields : List (String × Json)) (key : String) :
    fields.lookup key = (fields.filter (·.1 == key)).head?.map Prod.snd := by
  induction fields with
  | nil => rfl
  | cons head rest ih =>
      obtain ⟨name, value⟩ := head
      by_cases hname : name = key
      · simp [hname]
      · have hne : (key == name) = false := by simpa using Ne.symm hname
        simp [List.lookup_cons, hname, hne, ih]

theorem lookup_of_single? {given : Option Json} (h : single? fields key = some given) :
    fields.lookup key = given := by
  rw [lookup_eq_head?]
  rw [single?] at h
  split at h
  · next hfilter =>
      cases h
      rw [hfilter]
      rfl
  · next name value hfilter =>
      cases h
      rw [hfilter]
      rfl
  · cases h

theorem mem_of_lookup {value : Json} (h : fields.lookup key = some value) :
    (key, value) ∈ fields := by
  rw [lookup_eq_head?] at h
  obtain ⟨⟨name, found⟩, hhead, rfl⟩ := Option.map_eq_some_iff.mp h
  have hmem := List.mem_of_head? hhead
  obtain ⟨hfield, hname⟩ := List.mem_filter.mp hmem
  rw [← eq_of_beq hname]
  exact hfield

theorem mem_of_single? {value : Json} (h : single? fields key = some (some value)) :
    (key, value) ∈ fields :=
  mem_of_lookup (lookup_of_single? h)

theorem single?_cons (name : String) (value : Json) (rest : List (String × Json)) (key : String) :
    single? ((name, value) :: rest) key =
      if name = key then if rest.any (·.1 == key) then none else some (some value)
      else single? rest key := by
  by_cases hname : name = key
  · subst hname
    cases hrest : rest.filter (·.1 == name) with
    | nil =>
        have hany : rest.any (·.1 == name) = false :=
          List.any_eq_false.mpr (List.filter_eq_nil_iff.mp hrest)
        simp [single?, hrest, hany]
    | cons again more =>
        have hany : rest.any (·.1 == name) = true := by
          obtain ⟨hmem, hagain⟩ := List.mem_filter.mp (hrest ▸ List.mem_cons_self)
          exact List.any_eq_true.mpr ⟨again, hmem, hagain⟩
        simp [single?, hrest, hany]
  · simp [single?, hname]

theorem single?_of_ascending (h : Ascending fields) (key : String) :
    single? fields key = some (fields.lookup key) := by
  induction fields with
  | nil => rfl
  | cons head rest ih =>
      obtain ⟨name, value⟩ := head
      obtain ⟨hhead, hrest⟩ := List.pairwise_cons.mp h
      rw [single?_cons, ih hrest, List.lookup_cons]
      by_cases hkey : name = key
      · subst hkey
        have hnone : rest.any (·.1 == name) = false := by
          refine List.any_eq_false.mpr fun field hfield heq => ?_
          have hlt := hhead field.1 (List.mem_map_of_mem hfield)
          rw [eq_of_beq heq] at hlt
          exact String.lt_irrefl _ hlt
        simp [hnone]
      · have hne : (key == name) = false := by simpa using Ne.symm hkey
        rw [if_neg hkey, hne]

theorem exists_of_required? {given : α} (h : required? read fields key = some given) :
    ∃ value, (key, value) ∈ fields ∧ read value = some given := by
  obtain ⟨found, hsingle, hread⟩ := Option.bind_eq_some_iff.mp h
  obtain ⟨value, rfl, hvalue⟩ := Option.bind_eq_some_iff.mp hread
  exact ⟨value, mem_of_single? hsingle, hvalue⟩

theorem exists_of_optional? {given : α} (h : optional? read fields key = some (some given)) :
    ∃ value, (key, value) ∈ fields ∧ read value = some given := by
  obtain ⟨found, hsingle, hread⟩ := Option.bind_eq_some_iff.mp h
  split at hread
  · cases hread
  · cases hread
  · next value _ =>
      refine ⟨value, mem_of_single? hsingle, ?_⟩
      simpa using hread

/-! ## Fields by position -/

variable {keys : List String} {items : List Json}

theorem eq_zip_of_positional? (h : positional? keys items = some fields) :
    fields = keys.zip items := by
  rw [positional?] at h
  split at h
  · exact (Option.some.inj h).symm
  · cases h

/-- A record has every name once, so what stands first is all that there is under its name. -/
theorem single?_zip_cons (hkey : key ∉ keys) (item : Json) (items : List Json) :
    single? ((key :: keys).zip (item :: items)) key = some (some item) := by
  have hnone : (keys.zip items).any (·.1 == key) = false := by
    refine List.any_eq_false.mpr fun field hfield heq => hkey ?_
    exact eq_of_beq heq ▸ (List.of_mem_zip hfield).1
  rw [List.zip_cons_cons, single?_cons, if_pos rfl, hnone]
  rfl

theorem single?_zip_cons_of_ne {name : String} (hname : name ≠ key) (item : Json)
    (items : List Json) :
    single? ((name :: keys).zip (item :: items)) key = single? (keys.zip items) key := by
  rw [List.zip_cons_cons, single?_cons, if_neg hname]

theorem mem_items_of_positional? {field : String × Json} (h : positional? keys items = some fields)
    (hfield : field ∈ fields) : field.2 ∈ items := by
  rw [eq_zip_of_positional? h] at hfield
  exact (List.of_mem_zip hfield).2

/-! ## Readers that search for their field -/

theorem required?_eq_elim (read : Json → Option α) (fields : List (String × Json)) (key : String) :
    required? read fields key = (single? fields key).bind (·.elim none read) := by
  rw [required?]
  cases single? fields key with
  | none => rfl
  | some found => cases found <;> rfl

theorem defaulted?_eq_elim (read : Json → Option α) (missing : α) (fields : List (String × Json))
    (key : String) :
    defaulted? read missing fields key =
      (single? fields key).bind (·.elim (some missing) read) := by
  rw [defaulted?]
  cases single? fields key with
  | none => rfl
  | some found => cases found <;> rfl

theorem searchFields_eq {search : List (String × Json) → Option α} {missing : Option α}
    (hnil : search [] = missing)
    (hcons : ∀ name value rest, search ((name, value) :: rest) =
      if name = key then if rest.any (·.1 == key) then none else read value else search rest)
    (fields : List (String × Json)) :
    search fields = (single? fields key).bind (·.elim missing read) := by
  induction fields with
  | nil => exact hnil
  | cons head rest ih =>
      rw [hcons, ih, single?_cons]
      split
      · split <;> rfl
      · rfl

theorem searchItems_eq {search : List String → List Json → Option α} {missing : Option α}
    (hitems : ∀ keys, search keys [] = missing) (hkeys : ∀ items, search [] items = missing)
    (hcons : ∀ name keys item items, search (name :: keys) (item :: items) =
      if name = key then read item else search keys items)
    {keys : List String} (hnodup : keys.Nodup) (items : List Json) :
    search keys items = (single? (keys.zip items) key).bind (·.elim missing read) := by
  induction keys generalizing items with
  | nil => exact hkeys items
  | cons name keys ih =>
      obtain ⟨hname, hnodup⟩ := List.nodup_cons.mp hnodup
      cases items with
      | nil => exact hitems (name :: keys)
      | cons item items =>
          rw [hcons]
          split
          · next heq =>
              subst heq
              rw [single?_zip_cons hname]
              rfl
          · next hne => rw [ih hnodup, single?_zip_cons_of_ne hne]

/-! ## Records with a type -/

/-- The type of a record with its fields.  It is one of the fields, or stands in front of the
values. -/
def typed? {τ : Type} (type? : Json → Option τ) (keys : τ → List String) :
    Json → Option (τ × List (String × Json))
  | .object fields => (required? type? fields "type").map (·, fields)
  | .list (first :: items) => do
      let type ← type? first
      let fields ← positional? (keys type) items
      return (type, fields)
  | _ => none

section Typed

variable {τ : Type} {type? : Json → Option τ} {keys : τ → List String} {type : τ}

theorem eq_fields_of_typed? {given : List (String × Json)}
    (h : (object given).typed? type? keys = some (type, fields)) : given = fields := by
  obtain ⟨stated, -, heq⟩ := Option.map_eq_some_iff.mp h
  exact congrArg Prod.snd heq

theorem mem_items_of_typed? {field : String × Json}
    (h : (list items).typed? type? keys = some (type, fields)) (hfield : field ∈ fields) :
    field.2 ∈ items := by
  cases items with
  | nil => cases h
  | cons first items =>
      simp only [typed?, Option.bind_eq_bind, Option.bind_eq_some_iff] at h
      obtain ⟨stated, -, given, hgiven, heq⟩ := h
      cases heq
      exact List.mem_cons_of_mem first (mem_items_of_positional? hgiven hfield)

end Typed

end Json

theorem Object.single?_fields (object : Object) (key : String) :
    Json.single? object.fields key = some (object.get? key) :=
  Json.single?_of_ascending (by simpa [Json.Ordered] using object.ordered.1) key

theorem Object.filter_fields (object : Object) (key : String) :
    object.fields.filter (·.1 == key) = (object.get? key).toList.map (key, ·) := by
  have hsingle := object.single?_fields key
  rw [Json.single?] at hsingle
  split at hsingle
  · next hfilter =>
      obtain heq := Option.some.inj hsingle
      rw [hfilter, ← heq]
      rfl
  · next name value hfilter =>
      obtain heq := Option.some.inj hsingle
      have hmem : (name, value) ∈ object.fields.filter (·.1 == key) := by simp [hfilter]
      obtain rfl : name = key := eq_of_beq (List.mem_filter.mp hmem).2
      rw [hfilter, ← heq]
      rfl
  · cases hsingle

end DocTemplate

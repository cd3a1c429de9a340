import DocTemplate.Data.Lookup
import DocTemplate.Proofs.Data.Grammar
import DocTemplate.Proofs.Json.Record

/-!
# Lookup as a walk over the data

A view is stored in two parts, and a lookup ends early in several places.  Seen from the data it is
a walk: it begins at the scope or at an entry of the data, and every step leads to a part of the
value before, where all values on the way are other than null.
-/

namespace DocTemplate

open DocTemplate.Text

variable {scope : Option Json}

/-! ## Steps -/

/-- The part of a value that a step leads to.  In a scope, an array marker leads to the scope from
everywhere. -/
inductive Hop (scope : Option Json) : Json → DataStep → Json → Prop where
  | member {fields : List (String × Json)} {name : String} {part : Json}
      (h : fields.lookup name = some part) : Hop scope (.object fields) (.field name) part
  | marked {fields : List (String × Json)} {name : String} {part : Json} (hscope : scope = none)
      (h : fields.lookup name = some part) : Hop scope (.object fields) (.item name) part
  | again {value item : Json} {name : String} (hscope : scope = some item) :
      Hop scope value (.item name) item
  | position {items : List Json} {index : Nat} {part : Json} (h : items[index]? = some part) :
      Hop scope (.list items) (.index index) part
  | numeral {items : List Json} {name : String} {index : Nat} {part : Json}
      (hname : readIndex? name.toList = some index) (h : items[index]? = some part) :
      Hop scope (.list items) (.field name) part
  | count {items : List Json} : Hop scope (.list items) (.field "length") (.ofNat items.length)
  | size {content : String} :
      Hop scope (.text content) (.field "length") (.ofNat content.length)

private theorem ne_length_of_readIndex? {name : String} {index : Nat}
    (h : readIndex? name.toList = some index) : name ≠ "length" := by
  rintro rfl
  cases h

def Json.hop? (scope : Option Json) (value : Json) (step : DataStep) : Option Json :=
  match step, scope with
  | .item _, some item => some item
  | _, _ => value.follow? step

private theorem Json.hop_of_hop? {value part : Json} {step : DataStep}
    (h : value.hop? scope step = some part) : Hop scope value step part := by
  cases step with
  | field name =>
      cases value with
      | object fields => exact .member h
      | list items =>
          simp only [hop?, follow?] at h
          split at h
          · next hname =>
              cases h
              subst hname
              exact .count
          · obtain ⟨index, hname, hitem⟩ := Option.bind_eq_some_iff.mp h
            exact .numeral hname hitem
      | text content =>
          simp only [hop?, follow?] at h
          split at h
          · next hname =>
              cases h
              subst hname
              exact .size
          · cases h
      | _ => cases h
  | item name =>
      cases hscope : scope with
      | some item =>
          subst hscope
          cases h
          exact .again rfl
      | none =>
          subst hscope
          cases value with
          | object fields => exact .marked rfl h
          | _ => cases h
  | index position =>
      cases value with
      | list items => exact .position h
      | _ => cases h

private theorem Json.hop?_of_hop {value part : Json} {step : DataStep}
    (h : Hop scope value step part) :
    value.hop? scope step = some part := by
  cases h with
  | member h => exact h
  | marked hscope h => subst hscope; exact h
  | again hscope => subst hscope; rfl
  | position h => exact h
  | numeral hname h => simp [hop?, follow?, ne_length_of_readIndex? hname, hname, h]
  | count => rfl
  | size => rfl

/-! ## Walks -/

/-- From a value to a value by steps, over values other than null. -/
inductive Walk (scope : Option Json) : Json → List DataStep → Json → Prop where
  | done {value : Json} (given : value.isNull = false) : Walk scope value [] value
  | step {value next result : Json} {step : DataStep} {rest : List DataStep}
      (given : value.isNull = false) (hop : Hop scope value step next)
      (walk : Walk scope next rest result) : Walk scope value (step :: rest) result

theorem Walk.given {value result : Json} {steps : List DataStep}
    (h : Walk scope value steps result) : value.isNull = false := by
  cases h with
  | done given => exact given
  | step given _ _ => exact given

theorem Walk.result_given {value result : Json} {steps : List DataStep}
    (h : Walk scope value steps result) : result.isNull = false := by
  induction h with
  | done given => exact given
  | step _ _ _ ih => exact ih

theorem View.present_eq_some_iff {value result : Json} :
    present value = some result ↔ value.isNull = false ∧ value = result := by
  rw [present]
  cases value.isNull <;> simp

private theorem followSteps?_cons (value : Json) (step : DataStep) (rest : List DataStep) :
    followSteps? scope value (step :: rest) =
      if value.isNull then none
      else (value.hop? scope step).bind fun next => followSteps? scope next rest := by
  cases step <;> cases scope <;> rfl

theorem followSteps?_eq_some_iff {value result : Json} {steps : List DataStep} :
    followSteps? scope value steps = some result ↔ Walk scope value steps result := by
  induction steps generalizing value with
  | nil =>
      rw [followSteps?, View.present_eq_some_iff]
      constructor
      · rintro ⟨given, rfl⟩
        exact .done given
      · intro h
        cases h with
        | done given => exact ⟨given, rfl⟩
  | cons step rest ih =>
      rw [followSteps?_cons]
      constructor
      · intro h
        split at h
        · cases h
        · next hvalue =>
            obtain ⟨next, hnext, hrest⟩ := Option.bind_eq_some_iff.mp h
            exact .step (Bool.of_not_eq_true hvalue) (Json.hop_of_hop? hnext)
              (ih.mp hrest)
      · intro h
        cases h with
        | step given hop walk =>
            rw [given, Json.hop?_of_hop hop]
            exact ih.mpr walk

/-! ## Views -/

private theorem View.get?_ofFields (fields : List (String × Json)) (key : String) :
    (ofFields fields).get? key = (fields.lookup key).bind present := by
  rw [get?]
  cases hsection : Section.ofKey? key with
  | some name =>
      obtain rfl : name.key = key := by simpa using List.find?_some hsection
      simp only [ofFields]
      cases fields.lookup name.key <;> rfl
  | none =>
      simp only [ofFields, Json.lookup_eq_head?, List.filter_filter]
      congr 4
      funext entry
      by_cases hkey : entry.1 = key
      · simp [hkey, hsection]
      · simp [hkey]

theorem View.get?_of_ofJson? {value : Json} {data : Object} {view : View}
    (hdata : value.asObject? = some data) (hview : ofJson? value = some view) (key : String) :
    view.get? key = (data.get? key).bind present := by
  cases value with
  | object fields =>
      cases hdata
      rw [ofJson?] at hview
      split at hview
      · cases hview
        exact get?_ofFields _ key
      · cases hview
  | _ => cases hdata

/-! ## Where a walk begins -/

/-- The path has a single segment and the scope is an object with the name. -/
def ScopeEntry (source : String) (scope : Option Json) (name : String) (value : Json) : Prop :=
  '.' ∉ source.toList ∧ ∃ fields, scope = some (.object fields) ∧ fields.lookup name = some value

/-- The value of the first step of a path: the scope, an entry of the scope, or an entry of the
data.  An entry of the scope hides that of the data also when it is null. -/
inductive Start (source : String) (data : Object) (scope : Option Json) :
    DataStep → Json → Prop where
  | scope {name : String} {item : Json} (hscope : scope = some item) :
      Start source data scope (.item name) item
  | marked {name : String} {value : Json} (hscope : scope = none)
      (h : data.get? name = some value) : Start source data scope (.item name) value
  | entry {name : String} {value : Json} (h : ScopeEntry source scope name value) :
      Start source data scope (.field name) value
  | data {name : String} {value : Json} (hscope : ∀ entry, ¬ScopeEntry source scope name entry)
      (h : data.get? name = some value) : Start source data scope (.field name) value

private theorem start_item_iff {source name : String} {data : Object} {value : Json} :
    Start source data scope (.item name) value ↔
      scope = some value ∨ scope = none ∧ data.get? name = some value := by
  constructor
  · intro h
    cases h with
    | scope hscope => exact .inl hscope
    | marked hscope h => exact .inr ⟨hscope, h⟩
  · rintro (hscope | ⟨hscope, h⟩)
    · exact .scope hscope
    · exact .marked hscope h

private theorem start_field_iff {source name : String} {data : Object} {value : Json} :
    Start source data scope (.field name) value ↔
      ScopeEntry source scope name value ∨
        (∀ entry, ¬ScopeEntry source scope name entry) ∧ data.get? name = some value := by
  constructor
  · intro h
    cases h with
    | entry h => exact .inl h
    | data hscope h => exact .inr ⟨hscope, h⟩
  · rintro (h | ⟨hscope, h⟩)
    · exact .entry h
    · exact .data hscope h

namespace DataPath

variable {source : String} {path : DataPath} {view : View} {data : Object}

/-! ## Lookup -/

theorem readsScope_iff {name : String} (hhead : path.head? = some name)
    (hqualified : path.qualified = decide ('.' ∈ source.toList)) :
    path.readsScope scope = true ↔ ∃ value, ScopeEntry source scope name value := by
  rw [readsScope.eq_def, hhead, hqualified]
  simp only [ScopeEntry]
  cases scope with
  | none => simp
  | some item =>
      cases item with
      | object fields => simp [Option.isSome_iff_exists]
      | _ => simp

private theorem scopeEntry_iff_of_readsScope {name : String} {value : Json}
    (hhead : path.head? = some name) (hqualified : path.qualified = decide ('.' ∈ source.toList))
    (h : path.readsScope scope = true) :
    (scope.bind (·.follow? (.field name))) = some value ↔ ScopeEntry source scope name value := by
  obtain ⟨entry, hsingle, fields, rfl, hentry⟩ := (readsScope_iff hhead hqualified).mp h
  constructor
  · exact fun hfollow => ⟨hsingle, fields, rfl, hfollow⟩
  · rintro ⟨-, found, heq, hfound⟩
    cases heq
    exact hfound

theorem start?_eq_some_iff {value : Json} {first : DataStep} {rest : List DataStep}
    (hqualified : path.qualified = decide ('.' ∈ source.toList))
    (hview : ∀ key, view.get? key = (data.get? key).bind View.present)
    (hsteps : path.steps = first :: rest) (given : value.isNull = false) :
    path.start? view scope first = some value ↔ Start source data scope first value := by
  have hdata (name : String) : view.get? name = some value ↔ data.get? name = some value := by
    rw [hview, Option.bind_eq_some_iff]
    simp only [View.present_eq_some_iff]
    constructor
    · rintro ⟨entry, hentry, -, rfl⟩
      exact hentry
    · exact fun hentry => ⟨value, hentry, given, rfl⟩
  cases first with
  | index position =>
      constructor
      · intro h
        cases h
      · intro h
        cases h
  | item name =>
      rw [start_item_iff]
      cases scope with
      | none => simp [start?, hdata]
      | some item => simp [start?]
  | field name =>
      have hhead : path.head? = some name := by rw [head?, hsteps]; rfl
      have hreads : path.readsScope scope = true ↔ ∃ entry, ScopeEntry source scope name entry :=
        readsScope_iff hhead hqualified
      rw [start_field_iff, start?]
      by_cases hscope : path.readsScope scope = true
      · obtain ⟨entry, hentry⟩ := hreads.mp hscope
        have hhidden : ¬((∀ entry, ¬ScopeEntry source scope name entry) ∧
            data.get? name = some value) := fun h => h.1 entry hentry
        rw [if_pos hscope, scopeEntry_iff_of_readsScope hhead hqualified hscope,
          or_iff_left hhidden]
      · have hnone : ∀ entry, ¬ScopeEntry source scope name entry :=
          fun entry hentry => hscope (hreads.mpr ⟨entry, hentry⟩)
        rw [if_neg hscope, hdata, or_iff_right (hnone value), and_iff_right hnone]

def LeadsTo (path : DataPath) (data : Object) (scope : Option Json) (result : Json) : Prop :=
  ∃ first rest value, path.steps = first :: rest ∧ Start path.source data scope first value ∧
    Walk scope value rest result

/-- A lookup is a walk over the data that the view has been read from: it finds what the walk leads
to, and it finds nothing where the walk meets a null or lacks a part.  So it never finds a null. -/
theorem lookup_walks_the_data {value : Json} (hdata : value.asObject? = some data)
    (hview : View.ofJson? value = some view) (hpath : parse source = .ok path)
    (scope : Option Json) :
    (∀ result, path.lookup? view scope = some result ↔ path.LeadsTo data scope result) ∧
      path.lookup? view scope ≠ some .null := by
  obtain ⟨rfl, -, hqualified⟩ := parse_eq_ok_iff.mp hpath
  have hget := View.get?_of_ofJson? hdata hview
  have hiff (result : Json) :
      path.lookup? view scope = some result ↔ path.LeadsTo data scope result := by
    rw [lookup?, LeadsTo]
    cases hsteps : path.steps with
    | nil => simp
    | cons first rest =>
        simp only [Option.bind_eq_some_iff, followSteps?_eq_some_iff, List.cons.injEq]
        constructor
        · rintro ⟨start, hstart, hwalk⟩
          exact ⟨first, rest, start, ⟨rfl, rfl⟩,
            (start?_eq_some_iff hqualified hget hsteps hwalk.given).mp hstart, hwalk⟩
        · rintro ⟨_, _, start, ⟨rfl, rfl⟩, hstart, hwalk⟩
          exact ⟨start, (start?_eq_some_iff hqualified hget hsteps hwalk.given).mpr hstart, hwalk⟩
  refine ⟨hiff, fun hnull => ?_⟩
  obtain ⟨_, _, _, -, -, hwalk⟩ := (hiff .null).mp hnull
  exact Bool.noConfusion hwalk.result_given

/-- A null in the scope hides what the data has under the name. -/
theorem lookup_walks_the_data_hidden :
    let value : Json := .object [("qty", .ofNat 3)]
    let data : Object := .ofFields [("qty", .ofNat 3)]
    let view : View := .ofFields [("qty", .ofNat 3)]
    let path : DataPath := ⟨"qty", [.field "qty"], false⟩
    value.asObject? = some data ∧ View.ofJson? value = some view ∧ parse "qty" = .ok path ∧
      path.LeadsTo data none (.ofNat 3) ∧
      ∀ result, ¬path.LeadsTo data (some (.object [("qty", .null)])) result := by
  intro value data view path
  have hdata : value.asObject? = some data := rfl
  have hview : View.ofJson? value = some view := by rfl
  have hpath : parse "qty" = .ok path := by rfl
  have houtside : path.lookup? view none = some (.ofNat 3) := by rfl
  have hinside : path.lookup? view (some (.object [("qty", .null)])) = none := by rfl
  refine ⟨hdata, hview, hpath,
    ((lookup_walks_the_data hdata hview hpath none).1 _).mp houtside, fun result hleads => ?_⟩
  rw [← (lookup_walks_the_data hdata hview hpath _).1, hinside] at hleads
  cases hleads

end DataPath

end DocTemplate

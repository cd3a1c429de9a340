import DocTemplate.Json.Basic
import DocTemplate.KeyMap

/-!
# Ordered JSON

A value is ordered when the keys of every object in it ascend strictly.  `Json.sorted` brings any
value into this form; of several fields with one key the last counts.  An `Object` is the field
list of an ordered object.
-/

namespace DocTemplate

namespace Json

/-! ## Ordered values -/

mutual

def Ordered : Json → Prop
  | .null => True
  | .bool _ => True
  | .number _ => True
  | .text _ => True
  | .list items => OrderedItems items
  | .object fields => Ascending fields ∧ OrderedFields fields

def OrderedItems : List Json → Prop
  | [] => True
  | item :: rest => item.Ordered ∧ OrderedItems rest

def OrderedFields : List (String × Json) → Prop
  | [] => True
  | (_, value) :: rest => value.Ordered ∧ OrderedFields rest

end

theorem orderedFields_iff {fields : List (String × Json)} :
    OrderedFields fields ↔ ∀ field ∈ fields, field.2.Ordered := by
  induction fields with
  | nil => simp [OrderedFields]
  | cons head rest ih =>
      obtain ⟨key, value⟩ := head
      simp [OrderedFields, ih]

theorem orderedItems_iff {items : List Json} :
    OrderedItems items ↔ ∀ item ∈ items, item.Ordered := by
  induction items with
  | nil => simp [OrderedItems]
  | cons head rest ih => simp [OrderedItems, ih]

/-! ## Sorting -/

mutual

def sorted : Json → Json
  | .null => .null
  | .bool value => .bool value
  | .number value => .number value
  | .text value => .text value
  | .list items => .list (sortedItems items)
  | .object fields => .object (sortedFields fields)

def sortedItems : List Json → List Json
  | [] => []
  | item :: rest => item.sorted :: sortedItems rest

def sortedFields : List (String × Json) → List (String × Json)
  | [] => []
  | (key, value) :: rest => insertAbsent key value.sorted (sortedFields rest)

end

theorem ascending_sortedFields (fields : List (String × Json)) :
    Ascending (sortedFields fields) := by
  induction fields with
  | nil => simp [sortedFields, Ascending]
  | cons head rest ih => exact ascending_insertAbsent head.1 head.2.sorted ih

mutual

theorem ordered_sorted : (value : Json) → value.sorted.Ordered
  | .null => by simp [sorted, Ordered]
  | .bool _ => by simp [sorted, Ordered]
  | .number _ => by simp [sorted, Ordered]
  | .text _ => by simp [sorted, Ordered]
  | .list items => by
      simpa [sorted, Ordered] using orderedItems_sortedItems items
  | .object fields => by
      simpa [sorted, Ordered] using
        And.intro (ascending_sortedFields fields) (orderedFields_sortedFields fields)

theorem orderedItems_sortedItems : (items : List Json) → OrderedItems (sortedItems items)
  | [] => by simp [sortedItems, OrderedItems]
  | item :: rest => by
      simpa [sortedItems, OrderedItems] using
        And.intro (ordered_sorted item) (orderedItems_sortedItems rest)

theorem orderedFields_sortedFields :
    (fields : List (String × Json)) → OrderedFields (sortedFields fields)
  | [] => by simp [sortedFields, OrderedFields]
  | (key, value) :: rest => by
      have hvalue := ordered_sorted value
      have hrest := orderedFields_iff.mp (orderedFields_sortedFields rest)
      refine orderedFields_iff.mpr fun field hfield => ?_
      rcases mem_insertAbsent hfield with rfl | hmem
      · exact hvalue
      · exact hrest field hmem

end

mutual

theorem sorted_of_ordered : (value : Json) → value.Ordered → value.sorted = value
  | .null, _ => rfl
  | .bool _, _ => rfl
  | .number _, _ => rfl
  | .text _, _ => rfl
  | .list items, h => by
      rw [sorted, sortedItems_of_ordered items (by simpa [Ordered] using h)]
  | .object fields, h => by
      have h : Ascending fields ∧ OrderedFields fields := by simpa [Ordered] using h
      rw [sorted, sortedFields_of_ordered fields h.1 h.2]

theorem sortedItems_of_ordered :
    (items : List Json) → OrderedItems items → sortedItems items = items
  | [], _ => rfl
  | item :: rest, h => by
      have h : item.Ordered ∧ OrderedItems rest := by simpa [OrderedItems] using h
      rw [sortedItems, sorted_of_ordered item h.1, sortedItems_of_ordered rest h.2]

theorem sortedFields_of_ordered :
    (fields : List (String × Json)) → Ascending fields → OrderedFields fields →
      sortedFields fields = fields
  | [], _, _ => rfl
  | (key, value) :: rest, hascending, h => by
      have h : value.Ordered ∧ OrderedFields rest := by simpa [OrderedFields] using h
      have hrest : Ascending rest := by
        simp only [Ascending, List.map_cons, List.pairwise_cons] at hascending
        exact hascending.2
      rw [sortedFields, sorted_of_ordered value h.1, sortedFields_of_ordered rest hrest h.2]
      have hsort := sortEntries_of_ascending hascending
      rwa [sortEntries, sortEntries_of_ascending hrest] at hsort

end

end Json

/-! ## Objects -/

structure Object where
  fields : List (String × Json)
  ordered : (Json.object fields).Ordered

namespace Object

def empty : Object := ⟨[], by simp [Json.Ordered, Json.OrderedFields, Ascending]⟩

instance : Inhabited Object := ⟨empty⟩

theorem ext_fields {a b : Object} (h : a.fields = b.fields) : a = b := by
  cases a; cases b; cases h; rfl

def ofFields (fields : List (String × Json)) : Object :=
  ⟨Json.sortedFields fields, by
    simpa [Json.sorted] using Json.ordered_sorted (.object fields)⟩

def get? (object : Object) (key : String) : Option Json := object.fields.lookup key

def isEmpty (object : Object) : Bool := object.fields.isEmpty

def toJson (object : Object) : Json := .object object.fields

@[simp] theorem ofFields_fields (object : Object) : ofFields object.fields = object := by
  apply ext_fields
  have h : Ascending object.fields ∧ Json.OrderedFields object.fields := by
    simpa [Json.Ordered] using object.ordered
  exact Json.sortedFields_of_ordered _ h.1 h.2

/-- The fields of `upper` take the place of fields of `lower` with the same key. -/
def overlay (lower : List (String × Json)) (upper : Object) : Object :=
  ofFields (lower ++ upper.fields)

end Object

end DocTemplate

/-!
# Maps with ascending text keys

A map is a list of entries whose keys ascend strictly, so two maps with the same entries are the
same list.  When a map is built from a list, the later of two entries with one key counts.
-/

namespace DocTemplate

/-! ## Entry lists -/

def Ascending {α : Type} (entries : List (String × α)) : Prop :=
  (entries.map Prod.fst).Pairwise (· < ·)

def insertAbsent {α : Type} (key : String) (value : α) : List (String × α) → List (String × α)
  | [] => [(key, value)]
  | (k, v) :: rest =>
      if key < k then (key, value) :: (k, v) :: rest
      else if key = k then (k, v) :: rest
      else (k, v) :: insertAbsent key value rest

theorem mem_insertAbsent {α : Type} {key : String} {value : α} {entries : List (String × α)}
    {entry : String × α} (h : entry ∈ insertAbsent key value entries) :
    entry = (key, value) ∨ entry ∈ entries := by
  induction entries with
  | nil => simpa [insertAbsent] using h
  | cons head rest ih =>
      obtain ⟨k, v⟩ := head
      rw [insertAbsent] at h
      split at h
      · simpa using h
      · split at h
        · exact .inr h
        · rcases List.mem_cons.mp h with rfl | h
          · simp
          · rcases ih h with rfl | h <;> simp [*]

theorem ascending_insertAbsent {α : Type} (key : String) (value : α)
    {entries : List (String × α)} (h : Ascending entries) :
    Ascending (insertAbsent key value entries) := by
  induction entries with
  | nil => simp [insertAbsent, Ascending]
  | cons head rest ih =>
      obtain ⟨k, v⟩ := head
      simp only [Ascending, List.map_cons, List.pairwise_cons] at h
      rw [insertAbsent]
      split
      · next hlt =>
          simp only [Ascending, List.map_cons, List.pairwise_cons, List.mem_cons]
          refine ⟨?_, h⟩
          rintro other (rfl | hother)
          · exact hlt
          · exact String.lt_trans hlt (h.1 other hother)
      · split
        · simpa only [Ascending, List.map_cons, List.pairwise_cons] using h
        · next hnlt hne =>
            have hgt : k < key := by
              rcases Std.lt_trichotomy key k with hlt | heq | hgt
              · exact absurd hlt hnlt
              · exact absurd heq hne
              · exact hgt
            simp only [Ascending, List.map_cons, List.pairwise_cons]
            refine ⟨?_, ih h.2⟩
            intro other hother
            obtain ⟨entry, hentry, rfl⟩ := List.mem_map.mp hother
            rcases mem_insertAbsent hentry with rfl | hmem
            · exact hgt
            · exact h.1 _ (List.mem_map_of_mem hmem)

def sortEntries {α : Type} : List (String × α) → List (String × α)
  | [] => []
  | (key, value) :: rest => insertAbsent key value (sortEntries rest)

theorem ascending_sortEntries {α : Type} (entries : List (String × α)) :
    Ascending (sortEntries entries) := by
  induction entries with
  | nil => simp [sortEntries, Ascending]
  | cons head rest ih => exact ascending_insertAbsent head.1 head.2 ih

theorem sortEntries_of_ascending {α : Type} {entries : List (String × α)}
    (h : Ascending entries) : sortEntries entries = entries := by
  induction entries with
  | nil => rfl
  | cons head rest ih =>
      obtain ⟨k, v⟩ := head
      simp only [Ascending, List.map_cons, List.pairwise_cons] at h
      rw [sortEntries, ih h.2]
      cases rest with
      | nil => rfl
      | cons next rest =>
          have : k < next.1 := h.1 _ (by simp)
          simp [insertAbsent, this]

/-! ## Maps -/

structure KeyMap (α : Type) where
  entries : List (String × α)
  ascending : Ascending entries

namespace KeyMap

variable {α : Type}

def empty : KeyMap α := ⟨[], by simp [Ascending]⟩

instance : Inhabited (KeyMap α) := ⟨empty⟩

instance [DecidableEq α] : DecidableEq (KeyMap α) := fun a b =>
  decidable_of_iff (a.entries = b.entries) <| by
    cases a; cases b; simp

def ofList (entries : List (String × α)) : KeyMap α :=
  ⟨sortEntries entries, ascending_sortEntries entries⟩

def get? (map : KeyMap α) (key : String) : Option α := map.entries.lookup key

def insert (map : KeyMap α) (key : String) (value : α) : KeyMap α :=
  ofList (map.entries ++ [(key, value)])

@[simp] theorem ofList_entries (map : KeyMap α) : ofList map.entries = map := by
  cases map with
  | mk entries h => simp [ofList, sortEntries_of_ascending h]

end KeyMap

end DocTemplate

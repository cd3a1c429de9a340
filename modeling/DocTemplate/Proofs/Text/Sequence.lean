import Mathlib.Data.List.Forall2

/-!
# Reading in turn

Parts that are read one after another all have a result, or the first of them that has none decides
the fault of the whole.  Where each part gives a list, the whole gives the lists in a row.
-/

namespace DocTemplate.Text

variable {ε α β : Type} {read : α → Except ε β} {part : α} {parts rest : List α} {fault : ε}

private theorem mapM_cons_eq_ok_iff {results : List β} :
    (part :: rest).mapM read = .ok results ↔
      ∃ result others, read part = .ok result ∧ rest.mapM read = .ok others ∧
        results = result :: others := by
  rw [List.mapM_cons]
  cases read part with
  | error fault => simp [bind, Except.bind]
  | ok result =>
      cases rest.mapM read with
      | error fault => simp [bind, Except.bind]
      | ok others => simp [bind, Except.bind, pure, Except.pure, eq_comm]

private theorem mapM_cons_eq_error_iff :
    (part :: rest).mapM read = .error fault ↔
      read part = .error fault ∨
        (∃ result, read part = .ok result) ∧ rest.mapM read = .error fault := by
  rw [List.mapM_cons]
  cases read part with
  | error fault => simp [bind, Except.bind]
  | ok result => cases rest.mapM read <;> simp [bind, Except.bind, pure, Except.pure]

private theorem mapM_eq_ok_iff {results : List β} :
    parts.mapM read = .ok results ↔
      List.Forall₂ (fun part result => read part = .ok result) parts results := by
  induction parts generalizing results with
  | nil =>
      rw [List.mapM_nil, List.forall₂_nil_left_iff]
      exact ⟨fun h => (Except.ok.inj h).symm, fun h => h ▸ rfl⟩
  | cons part rest ih => simp only [mapM_cons_eq_ok_iff, List.forall₂_cons_left_iff, ih]

private theorem mapM_eq_error_iff :
    parts.mapM read = .error fault ↔
      ∃ before part after, parts = before ++ part :: after ∧
        (∀ sound ∈ before, ∃ result, read sound = .ok result) ∧ read part = .error fault := by
  induction parts with
  | nil => simp [pure, Except.pure]
  | cons first rest ih =>
      rw [mapM_cons_eq_error_iff, ih]
      constructor
      · rintro (hfirst | ⟨hfirst, before, part, after, rfl, hbefore, hpart⟩)
        · exact ⟨[], first, rest, rfl, by simp, hfirst⟩
        · exact ⟨first :: before, part, after, rfl, List.forall_mem_cons.mpr ⟨hfirst, hbefore⟩,
            hpart⟩
      · rintro ⟨_ | ⟨sound, before⟩, part, after, hparts, hbefore, hpart⟩
        · obtain ⟨rfl, rfl⟩ := List.cons.inj hparts
          exact .inl hpart
        · obtain ⟨rfl, rfl⟩ := List.cons.inj hparts
          obtain ⟨hfirst, hbefore⟩ := List.forall_mem_cons.mp hbefore
          exact .inr ⟨hfirst, before, part, after, rfl, hbefore, hpart⟩

/-! ## Lists in a row -/

variable {readList : α → Except ε (List β)}

theorem map_flatten_eq_ok_iff {whole : List β} :
    (parts.mapM readList).map List.flatten = .ok whole ↔
      ∃ results, List.Forall₂ (fun part result => readList part = .ok result) parts results ∧
        whole = results.flatten := by
  simp only [← mapM_eq_ok_iff]
  cases parts.mapM readList <;> simp [Except.map, eq_comm]

theorem map_flatten_eq_error_iff :
    (parts.mapM readList).map List.flatten = .error fault ↔
      ∃ before part after, parts = before ++ part :: after ∧
        (∀ sound ∈ before, ∃ result, readList sound = .ok result) ∧
        readList part = .error fault := by
  rw [← mapM_eq_error_iff]
  cases parts.mapM readList <;> simp [Except.map]

end DocTemplate.Text

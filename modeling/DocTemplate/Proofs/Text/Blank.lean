import DocTemplate.Text.Blank
import Mathlib.Data.List.TakeWhile

/-!
# Trimming

Blanks at the ends of a text are lost and its other characters are not.
-/

namespace DocTemplate.Text

variable {c : Char} {text : List Char}

private theorem trimStart_cons_of_blank (h : isBlank c = true) (text : List Char) :
    trimStart (c :: text) = trimStart text :=
  List.dropWhile_cons_of_pos h

private theorem trimStart_cons_of_not_blank (h : isBlank c = false) (text : List Char) :
    trimStart (c :: text) = c :: text :=
  List.dropWhile_cons_of_neg (Bool.not_eq_true _ ▸ h)

private theorem trimEnd_append_of_blank (h : isBlank c = true) (text : List Char) :
    trimEnd (text ++ [c]) = trimEnd text := by
  rw [trimEnd, List.reverse_append, List.reverse_singleton, List.singleton_append,
    List.dropWhile_cons_of_pos h, trimEnd]

theorem trimEnd_append_of_not_blank (h : isBlank c = false) (text : List Char) :
    trimEnd (text ++ [c]) = text ++ [c] := by
  rw [trimEnd, List.reverse_append, List.reverse_singleton, List.singleton_append,
    List.dropWhile_cons_of_neg (Bool.not_eq_true _ ▸ h), List.reverse_cons, List.reverse_reverse]

private theorem trimEnd_cons_of_not_blank (h : isBlank c = false) (text : List Char) :
    trimEnd (c :: text) = c :: trimEnd text := by
  rw [trimEnd, trimEnd, List.reverse_cons, List.dropWhile_append]
  split
  · next hempty => simp [List.isEmpty_iff.mp hempty, h]
  · simp

theorem trim_cons_of_blank (h : isBlank c = true) (text : List Char) :
    trim (c :: text) = trim text := by
  rw [trim, trimStart_cons_of_blank h, trim]

theorem trim_cons_of_not_blank (h : isBlank c = false) (text : List Char) :
    trim (c :: text) = c :: trimEnd text := by
  rw [trim, trimStart_cons_of_not_blank h, trimEnd_cons_of_not_blank h]

theorem trim_append_of_blank (h : isBlank c = true) (text : List Char) :
    trim (text ++ [c]) = trim text := by
  rw [trim, trim, trimStart, trimStart, List.dropWhile_append]
  split
  · next hempty =>
      rw [List.dropWhile_cons_of_pos h, List.isEmpty_iff.mp hempty]
      rfl
  · exact trimEnd_append_of_blank h _

theorem mem_trim (hmem : c ∈ text) (h : isBlank c = false) : c ∈ trim text := by
  have hrest {text : List Char} (hmem : c ∈ text) : c ∈ text.dropWhile isBlank := by
    rw [← List.takeWhile_append_dropWhile (p := isBlank) (l := text)] at hmem
    rcases List.mem_append.mp hmem with hmem | hmem
    · exact absurd (List.mem_takeWhile_imp hmem) (by simp [h])
    · exact hmem
  exact List.mem_reverse.mpr (hrest (List.mem_reverse.mpr (hrest hmem)))

theorem trim_ne_nil (hmem : c ∈ text) (h : isBlank c = false) : trim text ≠ [] :=
  List.ne_nil_of_mem (mem_trim hmem h)

theorem trim_eq_nil_iff : trim text = [] ↔ ∀ c ∈ text, isBlank c = true := by
  constructor
  · intro h c hmem
    by_contra hblank
    exact trim_ne_nil hmem (Bool.not_eq_true _ ▸ hblank) h
  · intro h
    rw [trim, trimStart, List.dropWhile_eq_nil_iff.mpr h]
    rfl

theorem trim_of_not_blank (h : ∀ c ∈ text, isBlank c = false) : trim text = text := by
  have hrest {text : List Char} (h : ∀ c ∈ text, isBlank c = false) :
      text.dropWhile isBlank = text := by
    cases text with
    | nil => rfl
    | cons c rest => exact List.dropWhile_cons_of_neg (by simp [h c])
  rw [trim, trimStart, hrest h, trimEnd, hrest (by simpa using h), List.reverse_reverse]

end DocTemplate.Text

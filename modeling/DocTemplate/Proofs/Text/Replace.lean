import DocTemplate.Text.Scan
import Mathlib.Data.List.Infix

/-!
# Replacing several patterns

Patterns that are replaced one after another are replaced in a single pass from left to right, in
whatever order they come, as long as they share no characters and no text that is put in holds a
character of a pattern: a replacement then neither makes nor breaks an occurrence of another
pattern.
-/

namespace DocTemplate.Text

/-! ## One pattern -/

section Replace

variable {pattern replacement other : List Char}

private theorem replaceAfter_append (pattern replacement skipped rest : List Char) :
    replaceAfter pattern replacement skipped.length (skipped ++ rest) =
      replace pattern replacement rest := by
  induction skipped with
  | nil => rfl
  | cons c skipped ih => simpa [replaceAfter] using ih

theorem replace_append_self (hpattern : pattern ≠ []) (replacement rest : List Char) :
    replace pattern replacement (pattern ++ rest) =
      replacement ++ replace pattern replacement rest := by
  obtain ⟨c, behind, rfl⟩ := List.exists_cons_of_ne_nil hpattern
  have hfirst : (c :: behind).isPrefixOf (c :: (behind ++ rest)) = true := by
    simp [List.isPrefixOf_iff_prefix]
  rw [List.cons_append, replace, replaceAfter, if_pos hfirst, List.length_cons,
    Nat.add_sub_cancel, replaceAfter_append]

theorem replace_cons {c : Char} {rest : List Char} (h : ¬pattern <+: c :: rest)
    (replacement : List Char) :
    replace pattern replacement (c :: rest) = c :: replace pattern replacement rest := by
  rw [← List.isPrefixOf_iff_prefix] at h
  rw [replace, replaceAfter, if_neg h]
  rfl

theorem not_prefix_append (hpattern : pattern ≠ []) (hother : other ≠ [])
    (h : other.Disjoint pattern) (rest : List Char) : ¬pattern <+: other ++ rest := by
  obtain ⟨c, pattern, rfl⟩ := List.exists_cons_of_ne_nil hpattern
  obtain ⟨d, other, rfl⟩ := List.exists_cons_of_ne_nil hother
  intro hprefix
  obtain rfl := (List.cons_prefix_cons.mp hprefix).1
  exact h List.mem_cons_self List.mem_cons_self

theorem replace_append_of_disjoint (hpattern : pattern ≠ []) (h : other.Disjoint pattern)
    (replacement rest : List Char) :
    replace pattern replacement (other ++ rest) = other ++ replace pattern replacement rest := by
  induction other with
  | nil => rfl
  | cons c other ih =>
      have hfirst := not_prefix_append hpattern (List.cons_ne_nil c other) h rest
      rw [List.cons_append] at hfirst ⊢
      rw [replace_cons hfirst, ih (List.disjoint_of_disjoint_cons_left h), List.cons_append]

private theorem prefix_replace_iff (hpattern : pattern ≠ []) (hreplacement : replacement ≠ [])
    (hapart : other.Disjoint pattern) (hfresh : other.Disjoint replacement) (text : List Char) :
    other <+: replace pattern replacement text ↔ other <+: text := by
  induction text generalizing other with
  | nil => rfl
  | cons c rest ih =>
      cases other with
      | nil => simp
      | cons d other =>
          by_cases hfirst : pattern <+: c :: rest
          · -- the occurrence begins with characters that `other` does not have
            obtain ⟨behind, hbehind⟩ := hfirst
            have hne := List.cons_ne_nil d other
            rw [← hbehind, replace_append_self hpattern]
            exact iff_of_false
              (not_prefix_append hne hreplacement (List.disjoint_symm hfresh) _)
              (not_prefix_append hne hpattern (List.disjoint_symm hapart) _)
          · rw [replace_cons hfirst, List.cons_prefix_cons, List.cons_prefix_cons,
              ih (List.disjoint_of_disjoint_cons_left hapart)
                (List.disjoint_of_disjoint_cons_left hfresh)]

end Replace

/-! ## Several patterns -/

structure Placeholder where
  pattern : List Char
  text : List Char

def fillEach (placeholders : List Placeholder) (text : List Char) : List Char :=
  placeholders.foldl
    (fun text placeholder => replace placeholder.pattern placeholder.text text) text

/-- A single pass from left to right: the pattern that stands at a position is replaced, and any
other character is copied. -/
def fillAtOnce (placeholders : List Placeholder) : List Char → List Char
  | [] => []
  | c :: rest =>
      match placeholders.find? (·.pattern.isPrefixOf (c :: rest)) with
      | some placeholder =>
          placeholder.text ++ fillAtOnce placeholders (rest.drop (placeholder.pattern.length - 1))
      | none => c :: fillAtOnce placeholders rest
termination_by text => text.length
decreasing_by all_goals simp only [List.length_cons, List.length_drop]; omega

/-- The patterns share no characters, and no text has a character of a pattern. -/
structure Separate (placeholders : List Placeholder) : Prop where
  pattern_ne_nil : ∀ placeholder ∈ placeholders, placeholder.pattern ≠ []
  text_ne_nil : ∀ placeholder ∈ placeholders, placeholder.text ≠ []
  apart : placeholders.Pairwise fun first second => first.pattern.Disjoint second.pattern
  fresh : ∀ placeholder ∈ placeholders, ∀ other ∈ placeholders,
    placeholder.text.Disjoint other.pattern

variable {first placeholder : Placeholder} {placeholders : List Placeholder}

theorem Separate.tail (h : Separate (first :: placeholders)) : Separate placeholders where
  pattern_ne_nil _ hmem := h.pattern_ne_nil _ (List.mem_cons_of_mem _ hmem)
  text_ne_nil _ hmem := h.text_ne_nil _ (List.mem_cons_of_mem _ hmem)
  apart := (List.pairwise_cons.mp h.apart).2
  fresh _ hmem _ hother := h.fresh _ (List.mem_cons_of_mem _ hmem) _ (List.mem_cons_of_mem _ hother)

private theorem Separate.perm {order : List Placeholder} (h : Separate placeholders)
    (horder : order.Perm placeholders) : Separate order where
  pattern_ne_nil _ hmem := h.pattern_ne_nil _ (horder.mem_iff.mp hmem)
  text_ne_nil _ hmem := h.text_ne_nil _ (horder.mem_iff.mp hmem)
  apart := (horder.pairwise_iff List.disjoint_symm).mpr h.apart
  fresh _ hmem _ hother := h.fresh _ (horder.mem_iff.mp hmem) _ (horder.mem_iff.mp hother)

private theorem fillEach_nil (placeholders : List Placeholder) : fillEach placeholders [] = [] := by
  induction placeholders with
  | nil => rfl
  | cons first placeholders ih => exact ih

private theorem fillEach_append_of_disjoint {text : List Char}
    (hpattern : ∀ placeholder ∈ placeholders, placeholder.pattern ≠ [])
    (h : ∀ placeholder ∈ placeholders, text.Disjoint placeholder.pattern) (rest : List Char) :
    fillEach placeholders (text ++ rest) = text ++ fillEach placeholders rest := by
  induction placeholders generalizing rest with
  | nil => rfl
  | cons first placeholders ih =>
      obtain ⟨hfirst, hothers⟩ := List.forall_mem_cons.mp h
      obtain ⟨hpattern, hpatterns⟩ := List.forall_mem_cons.mp hpattern
      simp only [fillEach, List.foldl_cons] at ih ⊢
      rw [replace_append_of_disjoint hpattern hfirst, ih hpatterns hothers]

/-- A pattern is passed over until it is its turn, and its text is passed over from then on. -/
theorem fillEach_append_pattern (h : Separate placeholders) (hmem : placeholder ∈ placeholders)
    (rest : List Char) :
    fillEach placeholders (placeholder.pattern ++ rest) =
      placeholder.text ++ fillEach placeholders rest := by
  induction placeholders generalizing rest with
  | nil => cases hmem
  | cons first placeholders ih =>
      have hpattern := h.pattern_ne_nil first List.mem_cons_self
      rw [fillEach, fillEach, List.foldl_cons, List.foldl_cons]
      rcases List.mem_cons.mp hmem with rfl | hmem
      · rw [replace_append_self hpattern]
        exact fillEach_append_of_disjoint h.tail.pattern_ne_nil
          (fun other hother => h.fresh _ List.mem_cons_self _ (List.mem_cons_of_mem _ hother)) _
      · have hapart := (List.pairwise_cons.mp h.apart).1 placeholder hmem
        rw [replace_append_of_disjoint hpattern (List.disjoint_symm hapart)]
        exact ih h.tail hmem _

private theorem fillEach_cons {c : Char} {rest : List Char} (h : Separate placeholders)
    (hnone : ∀ placeholder ∈ placeholders, ¬placeholder.pattern <+: c :: rest) :
    fillEach placeholders (c :: rest) = c :: fillEach placeholders rest := by
  induction placeholders generalizing rest with
  | nil => rfl
  | cons first placeholders ih =>
      have hpattern := h.pattern_ne_nil first List.mem_cons_self
      have hfirst := replace_cons (hnone first List.mem_cons_self) first.text
      rw [fillEach, fillEach, List.foldl_cons, List.foldl_cons, hfirst]
      refine ih h.tail fun other hother => ?_
      have hapart := (List.pairwise_cons.mp h.apart).1 other hother
      have hfresh := h.fresh first List.mem_cons_self other (List.mem_cons_of_mem _ hother)
      rw [← hfirst, prefix_replace_iff hpattern (h.text_ne_nil first List.mem_cons_self)
        (List.disjoint_symm hapart) (List.disjoint_symm hfresh)]
      exact hnone other (List.mem_cons_of_mem _ hother)

theorem fillEach_eq_fillAtOnce {order : List Placeholder} (h : Separate placeholders)
    (horder : order.Perm placeholders) (text : List Char) :
    fillEach order text = fillAtOnce placeholders text := by
  have hseparate := h.perm horder
  fun_induction fillAtOnce placeholders text with
  | case1 => exact fillEach_nil order
  | case2 c rest placeholder hfind ih =>
      have hmem := List.mem_of_find?_eq_some hfind
      have hfound := List.find?_some hfind
      obtain ⟨behind, hbehind⟩ := List.isPrefixOf_iff_prefix.mp hfound
      have hdrop : rest.drop (placeholder.pattern.length - 1) = behind := by
        obtain ⟨d, pattern, hpattern⟩ := List.exists_cons_of_ne_nil (h.pattern_ne_nil _ hmem)
        rw [hpattern, List.cons_append] at hbehind
        rw [hpattern, ← (List.cons.inj hbehind).2, List.length_cons, Nat.add_sub_cancel,
          List.drop_left]
      rw [hdrop] at ih ⊢
      rw [← hbehind, fillEach_append_pattern hseparate (horder.mem_iff.mpr hmem), ih]
  | case3 c rest hfind ih =>
      have hnone : ∀ placeholder ∈ order, ¬placeholder.pattern <+: c :: rest := by
        intro placeholder hmem
        have hnot := List.find?_eq_none.mp hfind placeholder (horder.mem_iff.mp hmem)
        rwa [List.isPrefixOf_iff_prefix] at hnot
      rw [fillEach_cons hseparate hnone, ih]

end DocTemplate.Text

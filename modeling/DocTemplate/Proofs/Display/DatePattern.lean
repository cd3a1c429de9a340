import DocTemplate.Display.Date
import DocTemplate.Proofs.Text.Decimal
import DocTemplate.Proofs.Text.Replace

/-!
# Dates in patterns

A date is written by three replacements one after another.  Years, months and days are written in
digits, perhaps behind a minus sign, so they hold no letter of a pattern, and the replacements are a
single pass over the pattern.
-/

namespace DocTemplate.Date

open DocTemplate.Text

def placeholders (date : Date) : List Placeholder :=
  [⟨"YYYY".toList, yearChars date.year⟩, ⟨"MM".toList, padded 2 date.month⟩,
    ⟨"DD".toList, padded 2 date.day⟩]

theorem formatChars_eq (date : Date) (pattern : List Char) :
    date.formatChars pattern = fillEach date.placeholders pattern := rfl

/-! ## Texts of parts -/

theorem padded_ne_nil {width : Nat} (hwidth : 0 < width) (n : Nat) : padded width n ≠ [] := by
  have hlength := le_length_padded width n
  rintro hnil
  rw [hnil] at hlength
  exact absurd hwidth (Nat.not_lt.mpr hlength)

private theorem yearChars_ne_nil (year : Int) : yearChars year ≠ [] := by
  rw [yearChars]
  split
  · exact List.cons_ne_nil _ _
  · exact padded_ne_nil (by decide) _

private theorem isDigit_or_minus_of_mem_yearChars {year : Int} {c : Char} (h : c ∈ yearChars year) :
    isDigit c = true ∨ c = '-' := by
  rw [yearChars] at h
  split at h
  · rcases List.mem_cons.mp h with rfl | hmem
    · exact .inr rfl
    · exact .inl (isDigit_of_mem_padded c hmem)
  · exact .inl (isDigit_of_mem_padded c h)

variable {date : Date} {placeholder : Placeholder} {c : Char}

private theorem isDigit_or_minus_of_mem_text (hplaceholder : placeholder ∈ date.placeholders)
    (h : c ∈ placeholder.text) : isDigit c = true ∨ c = '-' := by
  simp only [placeholders, List.mem_cons, List.not_mem_nil, or_false] at hplaceholder
  rcases hplaceholder with rfl | rfl | rfl
  · exact isDigit_or_minus_of_mem_yearChars h
  · exact .inl (isDigit_of_mem_padded c h)
  · exact .inl (isDigit_of_mem_padded c h)

private theorem isLetter_of_mem_pattern (hplaceholder : placeholder ∈ date.placeholders)
    (h : c ∈ placeholder.pattern) : c ∈ ['Y', 'M', 'D'] := by
  simp only [placeholders, List.mem_cons, List.not_mem_nil, or_false] at hplaceholder
  rcases hplaceholder with rfl | rfl | rfl <;> simp_all

theorem separate_placeholders (date : Date) : Separate date.placeholders where
  pattern_ne_nil placeholder h := by
    simp only [placeholders, List.mem_cons, List.not_mem_nil, or_false] at h
    rcases h with rfl | rfl | rfl <;> simp
  text_ne_nil placeholder h := by
    simp only [placeholders, List.mem_cons, List.not_mem_nil, or_false] at h
    rcases h with rfl | rfl | rfl
    · exact yearChars_ne_nil date.year
    · exact padded_ne_nil (by decide) date.month
    · exact padded_ne_nil (by decide) date.day
  apart := by
    simp [placeholders, List.Disjoint]
  fresh placeholder h other hother := by
    intro c htext hpattern
    have hletter := isLetter_of_mem_pattern hother hpattern
    rcases isDigit_or_minus_of_mem_text h htext with hdigit | rfl
    · have hnot : ∀ c ∈ ['Y', 'M', 'D'], isDigit c = false := by simp [isDigit]
      exact absurd (hnot c hletter) (by simp [hdigit])
    · exact absurd hletter (by decide)

/-! ## Patterns -/

/-- A date is written in a single pass over the pattern, in which each of `YYYY`, `MM` and `DD` is
replaced where it stands and all else is copied.  No part of a date has a letter of a pattern, and
the replacements give the same text in any order. -/
theorem patterns_are_filled_at_once (date : Date) (pattern : String) :
    date.format pattern = String.ofList (fillAtOnce date.placeholders pattern.toList) ∧
      (∀ placeholder ∈ date.placeholders, ∀ other ∈ date.placeholders,
        placeholder.text.Disjoint other.pattern) ∧
      ∀ order, order.Perm date.placeholders →
        String.ofList (fillEach order pattern.toList) = date.format pattern := by
  have hseparate := separate_placeholders date
  have hformat : date.format pattern =
      String.ofList (fillAtOnce date.placeholders pattern.toList) := by
    rw [format, formatChars_eq, fillEach_eq_fillAtOnce hseparate (.refl _)]
  refine ⟨hformat, hseparate.fresh, fun order horder => ?_⟩
  rw [hformat, fillEach_eq_fillAtOnce hseparate horder]

/-- Letters that are left over behind or between the parts are copied. -/
theorem patterns_are_filled_at_once_left_over :
    let date : Date := ⟨-5, 3, 7⟩
    let year : Placeholder := ⟨"YYYY".toList, "-005".toList⟩
    let month : Placeholder := ⟨"MM".toList, "03".toList⟩
    let day : Placeholder := ⟨"DD".toList, "07".toList⟩
    year ∈ date.placeholders ∧ day ∈ date.placeholders ∧ year.text.Disjoint day.pattern ∧
      [day, year, month].Perm date.placeholders ∧
      String.ofList (fillEach [day, year, month] "YYYYY MDDM DDD".toList) = "-005Y M07M 07D" ∧
      date.format "YYYYY MDDM DDD" = "-005Y M07M 07D" := by
  intro date year month day
  have hplaceholders : date.placeholders = [year, month, day] := by
    simp [date, year, month, day, placeholders, yearChars, padded, digits_of_lt_ten, digitChar]
  have hyear : year ∈ date.placeholders := by simp [hplaceholders]
  have hday : day ∈ date.placeholders := by simp [hplaceholders]
  have horder : [day, year, month].Perm date.placeholders := by
    rw [hplaceholders]
    exact (List.perm_append_singleton day [year, month]).symm
  have hfilled : String.ofList (fillEach [day, year, month] "YYYYY MDDM DDD".toList) =
      "-005Y M07M 07D" := by decide
  obtain ⟨-, hfresh, hany⟩ := patterns_are_filled_at_once date "YYYYY MDDM DDD"
  exact ⟨hyear, hday, hfresh year hyear day hday, horder, hfilled,
    (hany _ horder).symm.trans hfilled⟩

end DocTemplate.Date

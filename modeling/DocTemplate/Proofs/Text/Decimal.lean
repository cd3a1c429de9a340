import DocTemplate.Proofs.Text.Blank
import DocTemplate.Text.Decimal
import Mathlib.Data.List.Induction
import Mathlib.Data.Nat.Digits.Defs

/-!
# Numerals read back

A number that is written in decimal and read again is the same number, also as an index as long as
it is below the bound of indices.  What is read as an index at all is a numeral of such a number,
with or without a plus sign.
-/

namespace DocTemplate.Text

private theorem isDigit_digitChar : ∀ digit < 10, isDigit (digitChar digit) = true := by decide

private theorem digitValue_digitChar :
    ∀ digit < 10, digitValue (digitChar digit) = digit := by decide

theorem digits_of_lt_ten {n : Nat} (h : n < 10) : digits n = [digitChar n] := by
  rw [digits, if_pos h]

theorem digits_ne_nil (n : Nat) : digits n ≠ [] := by
  rw [digits]
  split <;> simp

theorem isDigit_of_mem_digits {n : Nat} : ∀ c ∈ digits n, isDigit c = true := by
  induction n using Nat.strongRecOn with
  | ind n ih =>
      intro c hc
      rw [digits] at hc
      split at hc
      · next hlt =>
          obtain rfl := List.mem_singleton.mp hc
          exact isDigit_digitChar n hlt
      · rcases List.mem_append.mp hc with hc | hc
        · exact ih (n / 10) (by omega) c hc
        · obtain rfl := List.mem_singleton.mp hc
          exact isDigit_digitChar (n % 10) (by omega)

private theorem valueOf_digits (n : Nat) : valueOf 0 (digits n) = n := by
  induction n using Nat.strongRecOn with
  | ind n ih =>
      rw [digits]
      split
      · next hlt => simp [valueOf, digitValue_digitChar n hlt]
      · have hhigh := ih (n / 10) (by omega)
        rw [valueOf] at hhigh
        rw [valueOf, List.foldl_append, hhigh, List.foldl_cons, List.foldl_nil,
          digitValue_digitChar (n % 10) (by omega)]
        omega

private theorem readNat?_digits (n : Nat) : readNat? (digits n) = some n := by
  have hdigits : (digits n).all isDigit = true := List.all_eq_true.mpr isDigit_of_mem_digits
  simp [readNat?, hdigits, digits_ne_nil, valueOf_digits]

private theorem head?_digits_ne_plus (n : Nat) : (digits n).head? ≠ some '+' := by
  intro hplus
  have hdigit := isDigit_of_mem_digits '+' (List.mem_of_head? hplus)
  exact absurd hdigit (by decide)

theorem readIndex?_digits {n : Nat} (h : n < indexBound) : readIndex? (digits n) = some n := by
  rw [readIndex?, if_neg (head?_digits_ne_plus n), readNat?_digits]
  simp [h]

private theorem isBlank_of_isDigit {c : Char} (h : isDigit c = true) : isBlank c = false := by
  simp only [isDigit, Bool.and_eq_true, decide_eq_true_eq] at h
  simp only [isBlank, Bool.or_eq_false_iff, Bool.and_eq_false_iff, decide_eq_false_iff_not,
    beq_eq_false_iff_ne]
  omega

theorem trim_digits (n : Nat) : trim (digits n) = digits n :=
  trim_of_not_blank fun c hc => isBlank_of_isDigit (isDigit_of_mem_digits c hc)

/-! ## Padding -/

theorem isDigit_of_mem_padded {width n : Nat} : ∀ c ∈ padded width n, isDigit c = true := by
  intro c hc
  rcases List.mem_append.mp hc with hc | hc
  · rw [List.eq_of_mem_replicate hc]
    rfl
  · exact isDigit_of_mem_digits c hc

theorem le_length_padded (width n : Nat) : width ≤ (padded width n).length := by
  rw [padded, List.length_append, List.length_replicate]
  omega

/-! ## Numerals -/

structure IsNumeral (text : List Char) (n : Nat) : Prop where
  nonempty : text ≠ []
  decimal : ∀ c ∈ text, isDigit c = true
  value : Nat.ofDigits 10 (text.reverse.map digitValue) = n

/-- A numeral of a number that fits 64 bits, perhaps behind a plus sign. -/
structure IsIndex (text : List Char) (n : Nat) : Prop where
  numeral : ∃ unsigned, IsNumeral unsigned n ∧ (text = unsigned ∨ text = '+' :: unsigned)
  bound : n < indexBound

variable {text : List Char} {n : Nat}

private theorem valueOf_eq_ofDigits (text : List Char) :
    valueOf 0 text = Nat.ofDigits 10 (text.reverse.map digitValue) := by
  induction text using List.reverseRecOn with
  | nil => rfl
  | append_singleton text c ih =>
      rw [valueOf] at ih
      rw [valueOf, List.foldl_append, ih, List.reverse_append, List.reverse_singleton,
        List.singleton_append, List.map_cons, Nat.ofDigits_cons, Nat.add_comm]
      rfl

private theorem readNat?_eq_some_iff : readNat? text = some n ↔ IsNumeral text n := by
  rw [readNat?, valueOf_eq_ofDigits]
  constructor
  · intro h
    split at h
    · cases h
    · next hread =>
        simp only [Bool.or_eq_true, not_or, List.isEmpty_iff, Bool.not_eq_true', Bool.not_eq_false,
          List.all_eq_true] at hread
        exact ⟨hread.1, hread.2, Option.some.inj h⟩
  · rintro ⟨hne, hdecimal, rfl⟩
    rw [if_neg (by simpa [hne] using hdecimal)]

private theorem IsNumeral.head?_ne_plus (h : IsNumeral text n) :
    text.head? ≠ some '+' := fun hplus =>
  absurd (h.decimal '+' (List.mem_of_head? hplus)) (by decide)

theorem readIndex?_eq_some_iff : readIndex? text = some n ↔ IsIndex text n := by
  rw [readIndex?, Option.filter_eq_some_iff, readNat?_eq_some_iff, decide_eq_true_eq]
  constructor
  · rintro ⟨hnumeral, hbound⟩
    refine ⟨⟨_, hnumeral, ?_⟩, hbound⟩
    split
    · next hplus =>
        obtain ⟨unsigned, rfl⟩ := List.head?_eq_some_iff.mp hplus
        exact .inr rfl
    · exact .inl rfl
  · rintro ⟨⟨unsigned, hnumeral, rfl | rfl⟩, hbound⟩
    · rw [if_neg hnumeral.head?_ne_plus]
      exact ⟨hnumeral, hbound⟩
    · exact ⟨hnumeral, hbound⟩

theorem isIndex_digits (h : n < indexBound) : IsIndex (digits n) n :=
  readIndex?_eq_some_iff.mp (readIndex?_digits h)

theorem IsIndex.ne_nil (h : IsIndex text n) : text ≠ [] := by
  obtain ⟨unsigned, hnumeral, rfl | rfl⟩ := h.numeral
  · exact hnumeral.nonempty
  · exact List.cons_ne_nil _ _

theorem IsIndex.notMem {c : Char} (h : IsIndex text n) (hdigit : isDigit c = false)
    (hplus : c ≠ '+') : c ∉ text := by
  have hunsigned {unsigned : List Char} (hnumeral : IsNumeral unsigned n) : c ∉ unsigned :=
    fun hmem => absurd (hnumeral.decimal c hmem) (by simp [hdigit])
  obtain ⟨unsigned, hnumeral, rfl | rfl⟩ := h.numeral
  · exact hunsigned hnumeral
  · exact List.not_mem_cons_of_ne_of_not_mem hplus (hunsigned hnumeral)

end DocTemplate.Text

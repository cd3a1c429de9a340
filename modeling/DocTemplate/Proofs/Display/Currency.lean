import DocTemplate.Display.Currency
import DocTemplate.Proofs.Binary64.Finite
import DocTemplate.Proofs.Display.Decimals

/-!
# Grouped amounts

The text of an amount of money has the digits of the rounded amount, all of them and in order: the
thousands are separated, the cents stand behind a comma, and taking this away again gives the
rounded amount back.  The sign of a negative amount is kept unless only zeros are left of it.
-/

namespace DocTemplate.Display

open DocTemplate.Text
open DocTemplate.Binary64

/-! ## Groups of three -/

structure IsGrouping (first : List Char) (later : List (List Char)) : Prop where
  one_le : 1 ≤ first.length
  le_three : first.length ≤ 3
  later : ∀ group ∈ later, group.length = 3

private theorem length_flatten_of_three {groups : List (List Char)}
    (h : ∀ group ∈ groups, group.length = 3) : groups.flatten.length = 3 * groups.length := by
  rw [List.length_flatten, List.map_congr_left h, List.map_const', List.sum_replicate_nat,
    Nat.mul_comm]

private theorem IsGrouping.three_dvd_iff {first : List Char} {later : List (List Char)}
    (h : IsGrouping first later) :
    (first :: later).flatten.length % 3 = 0 ↔ first.length = 3 := by
  have hlater := length_flatten_of_three h.later
  have hpos := h.one_le
  have hle := h.le_three
  rw [List.flatten_cons, List.length_append, hlater]
  omega

private theorem intercalate_cons_head (c : Char) (first : List Char) (later : List (List Char)) :
    ['.'].intercalate ((c :: first) :: later) = c :: ['.'].intercalate (first :: later) := by
  cases later with
  | nil => rfl
  | cons next later => rw [List.intercalate_cons_cons, List.intercalate_cons_cons]; rfl

theorem exists_grouping {digits : List Char} (hne : digits ≠ []) :
    ∃ first later, IsGrouping first later ∧ (first :: later).flatten = digits ∧
      groupThousands digits = ['.'].intercalate (first :: later) := by
  induction digits using groupThousands.induct with
  | case1 => exact absurd rfl hne
  | case2 digit => exact ⟨[digit], [], ⟨by simp, by simp, by simp⟩, rfl, rfl⟩
  | case3 digit next rest hthird ih =>
      obtain ⟨first, later, hgroups, hflatten, htext⟩ := ih (List.cons_ne_nil _ _)
      have hthree : first.length = 3 := hgroups.three_dvd_iff.mp (hflatten ▸ hthird)
      refine ⟨[digit], first :: later, ⟨by simp, by simp, ?_⟩, ?_, ?_⟩
      · exact List.forall_mem_cons.mpr ⟨hthree, hgroups.later⟩
      · rw [List.flatten_cons, hflatten]
        rfl
      · rw [groupThousands, if_pos hthird, htext, List.intercalate_cons_cons]
        rfl
  | case4 digit next rest hthird ih =>
      obtain ⟨first, later, hgroups, hflatten, htext⟩ := ih (List.cons_ne_nil _ _)
      have hshort : first.length < 3 := Nat.lt_of_le_of_ne hgroups.le_three fun hthree =>
        hthird (hflatten ▸ hgroups.three_dvd_iff.mpr hthree)
      refine ⟨digit :: first, later, ⟨by simp, hshort, hgroups.later⟩, ?_, ?_⟩
      · rw [List.flatten_cons, List.cons_append, ← List.flatten_cons, hflatten]
      · rw [groupThousands, if_neg hthird, htext]
        exact (intercalate_cons_head digit first later).symm

/-! ## Texts of amounts -/

structure AmountText where
  sign : Bool
  first : List Char
  later : List (List Char)
  cents : List Char
  grouping : IsGrouping first later
  length_cents : cents.length = 2
  whole_decimal : ∀ group ∈ first :: later, ∀ c ∈ group, isDigit c = true
  cents_decimal : ∀ c ∈ cents, isDigit c = true

def AmountText.body (shown : AmountText) : List Char :=
  ['.'].intercalate (shown.first :: shown.later) ++ ',' :: shown.cents

def AmountText.chars (shown : AmountText) : List Char :=
  (if shown.sign then ['-'] else []) ++ "R$ ".toList ++ shown.body

/-- Without the separators, and with a point for the comma. -/
def plainDecimal (text : List Char) : List Char :=
  (text.filter (· != '.')).map fun c => if c = ',' then '.' else c

theorem plainDecimal_append (text rest : List Char) :
    plainDecimal (text ++ rest) = plainDecimal text ++ plainDecimal rest := by
  rw [plainDecimal, List.filter_append, List.map_append, plainDecimal, plainDecimal]

theorem plainDecimal_of_isDigit {text : List Char} (h : ∀ c ∈ text, isDigit c = true) :
    plainDecimal text = text := by
  have hcomma : ∀ c ∈ text, (if c = ',' then '.' else c) = c := by
    intro c hc
    refine if_neg ?_
    rintro rfl
    exact absurd (h ',' hc) (by decide)
  rw [plainDecimal, List.filter_eq_self.mpr fun c hc => ne_point_of_isDigit (h c hc),
    List.map_congr_left hcomma, List.map_id']

private theorem plainDecimal_intercalate {groups : List (List Char)}
    (h : ∀ group ∈ groups, ∀ c ∈ group, isDigit c = true) :
    plainDecimal (['.'].intercalate groups) = groups.flatten := by
  induction groups with
  | nil => rfl
  | cons group groups ih =>
      obtain ⟨hgroup, hgroups⟩ := List.forall_mem_cons.mp h
      cases groups with
      | nil =>
          rw [List.intercalate_singleton, List.flatten_singleton, plainDecimal_of_isDigit hgroup]
      | cons next later =>
          rw [List.intercalate_cons_cons, plainDecimal_append, plainDecimal_append, ih hgroups,
            plainDecimal_of_isDigit hgroup, List.flatten_cons]
          exact congrArg (· ++ _) (List.append_nil group)

theorem AmountText.plainDecimal_body (shown : AmountText) :
    plainDecimal shown.body = (shown.first :: shown.later).flatten ++ '.' :: shown.cents := by
  have hcomma : plainDecimal (',' :: shown.cents) = '.' :: shown.cents := by
    rw [← List.singleton_append, plainDecimal_append, plainDecimal_of_isDigit shown.cents_decimal]
    rfl
  rw [body, plainDecimal_append, plainDecimal_intercalate shown.whole_decimal, hcomma]

/-! ## Signs of amounts -/

variable {amount : Binary64} {digits : List Char}

theorem isNaN_of_rounded? {places : Nat} (h : rounded? amount.abs places = some digits) :
    amount.isNaN = false := by
  refine Bool.eq_false_iff.mpr fun hnan => ?_
  have hfinite := (rounded?_eq_some_iff.mp h).1
  have habs : amount.abs.isNaN = true := hnan
  rw [mul, habs] at hfinite
  cases hfinite

theorem isNegativeAmount_iff (hnumber : amount.isNaN = false)
    (hdigits : ∀ c ∈ digits, isDigit c = true ∨ c = '.') :
    isNegativeAmount amount digits = true ↔
      amount.rank < 0 ∧ ∃ c ∈ digits, isDigit c = true ∧ c ≠ '0' := by
  have hbelow : (amount.compare? (.zero false) == some .lt) = true ↔ amount.rank < 0 := by
    rw [compare?, hnumber, beq_iff_eq]
    exact Option.some_inj.trans compare_lt_iff_lt
  have hnonzero : (digits.any fun c => c != '.' && c != '0') = true ↔
      ∃ c ∈ digits, isDigit c = true ∧ c ≠ '0' := by
    rw [List.any_eq_true]
    refine exists_congr fun c => and_congr_right fun hc => ?_
    rw [Bool.and_eq_true, bne_iff_ne, bne_iff_ne]
    refine and_congr_left fun _ => ⟨(hdigits c hc).resolve_right, ?_⟩
    exact fun hdigit => bne_iff_ne.mp (ne_point_of_isDigit hdigit)
  rw [isNegativeAmount, Bool.and_eq_true, hbelow, hnonzero]

/-! ## Amounts -/

/-- Whenever the absolute amount can be rounded to cents, the amount is shown, with all digits of the
rounded one.  It is shown as negative if it is below zero and one of the digits is not zero. -/
theorem currency_groups_lose_no_digit (h : rounded? amount.abs 2 = some digits) :
    ∃ shown : AmountText, currency? amount = some (String.ofList shown.chars) ∧
      plainDecimal shown.body = digits ∧
      (shown.sign = true ↔ amount.rank < 0 ∧ ∃ c ∈ digits, isDigit c = true ∧ c ≠ '0') := by
  have hdecimal := decimalText_of_rounded? h rfl
  have hsign := isNegativeAmount_iff (isNaN_of_rounded? h) hdecimal.isDigit_or_point
  cases hdecimal with
  | @pointed _ whole cents hplaces hne hwhole hlength hcents =>
      obtain ⟨first, later, hgroups, hflatten, htext⟩ := exists_grouping hne
      let shown : AmountText :=
        { sign := isNegativeAmount amount (whole ++ '.' :: cents)
          first := first
          later := later
          cents := cents
          grouping := hgroups
          length_cents := hlength
          whole_decimal := fun group hgroup c hc =>
            hwhole c (hflatten ▸ List.mem_flatten_of_mem hgroup hc)
          cents_decimal := hcents }
      refine ⟨shown, ?_, ?_, hsign⟩
      · rw [currency?, h, Option.map_some, currencyChars, takeWhile_pointed hwhole,
          dropWhile_pointed hwhole, htext, List.append_assoc]
        rfl
      · rw [shown.plainDecimal_body, ← hflatten]

theorem currency_groups_lose_no_digit_of_millions :
    rounded? (ofRatio true 1234567891 1000).abs 2 = some "1234567.89".toList ∧
      ∃ shown : AmountText,
        currency? (ofRatio true 1234567891 1000) = some (String.ofList shown.chars) ∧
          plainDecimal shown.body = "1234567.89".toList ∧ shown.sign = true := by
  have hrounded : rounded? (ofRatio true 1234567891 1000).abs 2 = some "1234567.89".toList := by
    decide +kernel
  have hnegative : (ofRatio true 1234567891 1000).rank < 0 := by
    have hmagnitude : 0 < (ofRatio true 1234567891 1000).magnitude := by decide +kernel
    rw [rank, negative_ofRatio]
    exact Int.neg_neg_of_pos (Int.natCast_pos.mpr hmagnitude)
  have hnonzero : ∃ c ∈ "1234567.89".toList, isDigit c = true ∧ c ≠ '0' := ⟨'1', by decide⟩
  obtain ⟨shown, htext, hplain, hsign⟩ := currency_groups_lose_no_digit hrounded
  exact ⟨hrounded, shown, htext, hplain, hsign.mpr ⟨hnegative, hnonzero⟩⟩

/-- No sign is left of an amount below half a cent. -/
example : currency? (ofRatio true 1 1000) = some "R$ 0,00" := by decide +kernel

end DocTemplate.Display

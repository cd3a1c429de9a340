import DocTemplate.Display.Rounded
import DocTemplate.Proofs.Binary64.Finite
import DocTemplate.Proofs.Text.Decimal

/-!
# Texts of decimals

A number that is written with a given count of decimals has exactly that many digits behind its
point, and at least one in front of it.  What rounding shows is such a text, and the number in it is
finite; of a number without a sign it is one without a sign.
-/

namespace DocTemplate

open DocTemplate.Text

/-! ## Decimals -/

/-- Digits, and behind a point as many more as there are places; without places there is no
point. -/
inductive DecimalText : Nat → List Char → Prop
  | whole {digits : List Char} (hne : digits ≠ []) (hdigits : ∀ c ∈ digits, isDigit c = true) :
      DecimalText 0 digits
  | pointed {places : Nat} {whole decimals : List Char} (hplaces : 0 < places)
      (hne : whole ≠ []) (hwhole : ∀ c ∈ whole, isDigit c = true)
      (hlength : decimals.length = places) (hdecimals : ∀ c ∈ decimals, isDigit c = true) :
      DecimalText places (whole ++ '.' :: decimals)

def SignedDecimalText (places : Nat) (text : List Char) : Prop :=
  ∃ unsigned, DecimalText places unsigned ∧ (text = unsigned ∨ text = '-' :: unsigned)

theorem ne_point_of_isDigit {c : Char} (h : isDigit c = true) : (c != '.') = true := by
  refine bne_iff_ne.mpr ?_
  rintro rfl
  exact absurd h (by decide)

theorem dropWhile_pointed {whole : List Char} (hwhole : ∀ c ∈ whole, isDigit c = true)
    (decimals : List Char) :
    (whole ++ '.' :: decimals).dropWhile (· != '.') = '.' :: decimals := by
  rw [List.dropWhile_append_of_pos fun c hc => ne_point_of_isDigit (hwhole c hc)]
  rfl

theorem takeWhile_pointed {whole : List Char} (hwhole : ∀ c ∈ whole, isDigit c = true)
    (decimals : List Char) :
    (whole ++ '.' :: decimals).takeWhile (· != '.') = whole := by
  rw [List.takeWhile_append_of_pos fun c hc => ne_point_of_isDigit (hwhole c hc)]
  exact List.append_nil whole

theorem DecimalText.isDigit_or_point {places : Nat} {text : List Char}
    (h : DecimalText places text) : ∀ c ∈ text, isDigit c = true ∨ c = '.' := by
  intro c hc
  cases h with
  | whole hne hdigits => exact .inl (hdigits c hc)
  | pointed hplaces hne hwhole hlength hdecimals =>
      rcases List.mem_append.mp hc with hc | hc
      · exact .inl (hwhole c hc)
      · exact (List.mem_cons.mp hc).symm.imp_left (hdecimals c)

private theorem DecimalText.length_behind_point {places : Nat} {text : List Char}
    (h : DecimalText places text) : ((text.dropWhile (· != '.')).drop 1).length = places := by
  cases h with
  | whole hne hdigits =>
      rw [List.dropWhile_eq_nil_iff.mpr fun c hc => ne_point_of_isDigit (hdigits c hc)]
      rfl
  | pointed hplaces hne hwhole hlength hdecimals =>
      rw [dropWhile_pointed hwhole]
      exact hlength

theorem SignedDecimalText.length_behind_point {places : Nat} {text : List Char}
    (h : SignedDecimalText places text) :
    ((text.dropWhile (· != '.')).drop 1).length = places := by
  obtain ⟨unsigned, hunsigned, rfl | rfl⟩ := h
  · exact hunsigned.length_behind_point
  · exact hunsigned.length_behind_point

/-! ## Fixed counts of decimals -/

namespace Binary64

theorem decimalText_pointed (places n : Nat) : DecimalText places (pointed places n) := by
  have hlength := le_length_padded (places + 1) n
  rw [pointed]
  split
  · next hzero =>
      subst hzero
      exact .whole (List.ne_nil_of_length_pos (by omega)) isDigit_of_mem_padded
  · next hplaces =>
      refine .pointed (Nat.pos_of_ne_zero hplaces) ?_ ?_ ?_ ?_
      · exact List.ne_nil_of_length_pos (by rw [List.length_take]; omega)
      · exact fun c hc => isDigit_of_mem_padded c (List.mem_of_mem_take hc)
      · rw [List.length_drop]
        omega
      · exact fun c hc => isDigit_of_mem_padded c (List.mem_of_mem_drop hc)

private theorem signedDecimalText_fixed (places : Nat) (x : Binary64) :
    SignedDecimalText places (x.fixed places) := by
  refine ⟨_, decimalText_pointed places
    (roundEven (x.fraction.1 * tenTo places) x.fraction.2), ?_⟩
  rw [fixed]
  split
  · exact .inr rfl
  · exact .inl rfl

private theorem decimalText_fixed (places : Nat) {x : Binary64} (h : x.negative = false) :
    DecimalText places (x.fixed places) := by
  rw [fixed, h]
  exact decimalText_pointed places _

/-! ## Signs -/

variable {x y : Binary64}

theorem negative_ofRatio (negative : Bool) (num den : Nat) :
    (ofRatio negative num den).negative = negative := by
  rw [ofRatio]
  split <;> rfl

private theorem negative_ofScientific (negative : Bool) (coefficient : Nat) (exponent : Int) :
    (ofScientific negative coefficient exponent).negative = negative := by
  rw [ofScientific]
  split
  · rfl
  · split
    · rfl
    · split
      · rfl
      · exact negative_ofRatio ..

private theorem negative_mul (hx : x.negative = false) (hy : y.negative = false) :
    (x.mul y).negative = false := by
  rw [mul, hx, hy]
  split
  · rfl
  · split
    · split <;> rfl
    · exact negative_ofRatio ..

private theorem negative_div (hx : x.negative = false) (hy : y.negative = false) :
    (x.div y).negative = false := by
  rw [div, hx, hy]
  split
  · rfl
  · split
    · split <;> rfl
    · split
      · rfl
      · split
        · split <;> rfl
        · exact negative_ofRatio ..

private theorem negative_roundHalfAway (x : Binary64) : x.roundHalfAway.negative = x.negative := by
  rw [roundHalfAway]
  split
  · exact negative_ofRatio ..
  · rfl

end Binary64

/-! ## Rounded numbers -/

namespace Display

open Binary64

variable {x : Binary64} {places : Nat} {text : List Char}

theorem rounded?_min {bound : Nat} (h : maxPlaces ≤ bound) (x : Binary64) (places : Nat) :
    rounded? x (min places bound) = rounded? x places := by
  rw [rounded?, rounded?, Nat.min_assoc, Nat.min_eq_right h]

theorem rounded?_eq_some_iff :
    rounded? x places = some text ↔
      (x.mul (powerOfTen (min places maxPlaces))).isFinite = true ∧
        (withoutSignOfZero ((x.mul (powerOfTen (min places maxPlaces))).roundHalfAway.div
          (powerOfTen (min places maxPlaces)))).fixed (min places maxPlaces) = text := by
  rw [rounded?, Option.ite_none_right_eq_some, Option.some.injEq]

theorem exists_finite_of_rounded? (h : rounded? x places = some text) :
    ∃ shown : Binary64, shown.isFinite = true ∧ (x.negative = false → shown.negative = false) ∧
      shown.fixed (min places maxPlaces) = text := by
  obtain ⟨hfinite, rfl⟩ := rounded?_eq_some_iff.mp h
  refine ⟨_, ?_, fun hx => ?_, rfl⟩
  · have hplaces : min places maxPlaces ≤ 308 := Nat.le_trans (Nat.min_le_right _ _) (by decide)
    rw [withoutSignOfZero]
    split
    · rfl
    · exact isFinite_div (isFinite_roundHalfAway hfinite) (reduces_powerOfTen hplaces)
  · have hfactor : (powerOfTen (min places maxPlaces)).negative = false :=
      negative_ofScientific ..
    rw [withoutSignOfZero]
    split
    · rfl
    · exact negative_div (by rw [negative_roundHalfAway, negative_mul hx hfactor]) hfactor

theorem signedDecimalText_of_rounded? (h : rounded? x places = some text) :
    SignedDecimalText (min places maxPlaces) text := by
  obtain ⟨shown, -, -, rfl⟩ := exists_finite_of_rounded? h
  exact signedDecimalText_fixed _ shown

theorem decimalText_of_rounded? (h : rounded? x places = some text) (hx : x.negative = false) :
    DecimalText (min places maxPlaces) text := by
  obtain ⟨shown, -, hsign, rfl⟩ := exists_finite_of_rounded? h
  exact decimalText_fixed _ (hsign hx)

end Display

end DocTemplate

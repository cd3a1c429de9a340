import DocTemplate.Binary64.Arithmetic

/-!
# Results that are finite

Rounding gives a finite number as long as the exact value is at most the largest finite number, and
never NaN.  So whole numbers of 64 bits have finite neighbours, and a finite number stays finite when
it is rounded to a whole one or divided by one or more.
-/

namespace DocTemplate.Binary64

variable {num den : Nat} {shift : Int}

theorem twoTo_add (m n : Nat) : twoTo (m + n) = twoTo m * twoTo n := Nat.pow_add 2 m n

/-! ## Fractions below a power of two -/

/-- The fraction is less than two to the power `shift`. -/
def Below (num den : Nat) (shift : Int) : Prop :=
  num * twoTo (-shift).toNat < den * twoTo shift.toNat

theorem below_iff {i j : Nat} (h : (j : Int) - i = shift) :
    Below num den shift ↔ num * twoTo i < den * twoTo j := by
  obtain ⟨common, hi, hj⟩ : ∃ common, i = (-shift).toNat + common ∧ j = shift.toNat + common :=
    ⟨min i j, by omega, by omega⟩
  rw [Below, hi, hj, twoTo_add, twoTo_add, ← Nat.mul_assoc, ← Nat.mul_assoc,
    Nat.mul_lt_mul_right (twoTo_pos common)]

theorem Below.mono {larger : Int} (h : Below num den shift) (hle : shift ≤ larger) :
    Below num den larger := by
  refine (below_iff (i := (-shift).toNat) (j := shift.toNat + (larger - shift).toNat)
    (by omega)).mpr ?_
  rw [twoTo_add, ← Nat.mul_assoc]
  exact Nat.lt_of_lt_of_le h (Nat.le_mul_of_pos_right _ (twoTo_pos _))

theorem lt_twoTo_log2 (n : Nat) : n < twoTo (Nat.log2 n + 1) := Nat.lt_log2_self

theorem twoTo_log2_le (h : num ≠ 0) : twoTo (Nat.log2 num) ≤ num := Nat.log2_self_le h

private theorem below_log2 (hden : den ≠ 0) :
    Below num den ((Nat.log2 num : Int) - Nat.log2 den + 1) := by
  refine (below_iff (i := Nat.log2 den) (j := Nat.log2 num + 1) (by omega)).mpr ?_
  calc num * twoTo (Nat.log2 den)
      < twoTo (Nat.log2 num + 1) * twoTo (Nat.log2 den) :=
        Nat.mul_lt_mul_of_pos_right (lt_twoTo_log2 num) (twoTo_pos _)
    _ ≤ twoTo (Nat.log2 num + 1) * den := Nat.mul_le_mul_left _ (twoTo_log2_le hden)
    _ = den * twoTo (Nat.log2 num + 1) := Nat.mul_comm _ _

/-! ## Rounding -/

theorem floorLog2_cases (num den : Nat) :
    floorLog2 num den = (Nat.log2 num : Int) - Nat.log2 den ∧
        ¬Below num den ((Nat.log2 num : Int) - Nat.log2 den) ∨
      floorLog2 num den = (Nat.log2 num : Int) - Nat.log2 den - 1 ∧
        Below num den ((Nat.log2 num : Int) - Nat.log2 den) := by
  by_cases h : Below num den ((Nat.log2 num : Int) - Nat.log2 den)
  · exact .inr ⟨if_pos h, h⟩
  · exact .inl ⟨if_neg h, h⟩

private theorem below_floorLog2 (hden : den ≠ 0) : Below num den (floorLog2 num den + 1) := by
  rcases floorLog2_cases num den with ⟨heq, -⟩ | ⟨heq, hbelow⟩
  · rw [heq]
    exact below_log2 hden
  · rw [heq, Int.sub_add_cancel]
    exact hbelow

private theorem floorLog2_lt {limit : Nat} (hnum : num ≠ 0) (h : num < den * twoTo limit) :
    floorLog2 num den < limit := by
  have hlimit : Below num den limit := by
    refine (below_iff (i := 0) (j := limit) (by omega)).mpr ?_
    rw [show num * twoTo 0 = num from Nat.mul_one num]
    exact h
  rcases floorLog2_cases num den with ⟨heq, habove⟩ | ⟨heq, -⟩
  · rw [heq]
    exact Int.not_le.mp fun hle => habove (hlimit.mono hle)
  · have hlog : Nat.log2 num < Nat.log2 den + 1 + limit := by
      refine (Nat.pow_lt_pow_iff_right (a := 2) (by decide)).mp ?_
      calc twoTo (Nat.log2 num) ≤ num := twoTo_log2_le hnum
        _ < den * twoTo limit := h
        _ ≤ twoTo (Nat.log2 den + 1) * twoTo limit :=
          Nat.mul_le_mul_right _ (Nat.le_of_lt (lt_twoTo_log2 den))
        _ = twoTo (Nat.log2 den + 1 + limit) := (twoTo_add _ _).symm
    omega

theorem roundEven_le {limit : Nat} (hden : den ≠ 0) (h : num ≤ den * limit) :
    roundEven num den ≤ limit := by
  have hpos := Nat.pos_of_ne_zero hden
  rcases Nat.lt_or_eq_of_le h with hlt | rfl
  · have hquotient : num / den < limit := Nat.div_lt_of_lt_mul hlt
    rw [roundEven]
    split <;> omega
  · refine Nat.le_of_eq ?_
    rw [roundEven, Nat.mul_mod_right, Nat.mul_div_cancel_left limit hpos, if_pos (by simp [hpos])]

private theorem roundEven_scaledDown_le (num : Nat) (hden : den ≠ 0) :
    roundEven (scaledDown num den (unitExponent num den)).1
      (scaledDown num den (unitExponent num den)).2 ≤ 2 * fractionBound := by
  have hbelow : Below num den (unitExponent num den + 53) :=
    (below_floorLog2 hden).mono (by rw [unitExponent]; omega)
  refine roundEven_le (Nat.mul_ne_zero hden (Nat.ne_of_gt (twoTo_pos _))) (Nat.le_of_lt ?_)
  rw [below_iff (i := (-unitExponent num den).toNat) (j := (unitExponent num den).toNat + 53)
    (by omega), twoTo_add, ← Nat.mul_assoc] at hbelow
  exact hbelow

private theorem isFinite_saturated {negative : Bool} {magnitude : Nat}
    (h : magnitude < infinityMagnitude) : (saturated negative magnitude).isFinite = true := by
  rw [isFinite, saturated, decide_eq_true_eq]
  exact Nat.lt_of_le_of_lt (Nat.min_le_left _ _) h

def largest : Nat := (2 * fractionBound - 1) * twoTo 971

private theorem largest_lt : largest < twoTo 1024 := by decide +kernel

theorem isFinite_ofRatio {negative : Bool} (h : num ≤ den * largest) :
    (ofRatio negative num den).isFinite = true := by
  rw [ofRatio]
  split
  · rfl
  · next hzero =>
      obtain ⟨hnum, hden⟩ : num ≠ 0 ∧ den ≠ 0 := by simpa using hzero
      have hlog : floorLog2 num den < (1024 : Nat) :=
        floorLog2_lt hnum (Nat.lt_of_le_of_lt h
          (Nat.mul_lt_mul_of_pos_left largest_lt (Nat.pos_of_ne_zero hden)))
      have hunit : unitExponent num den ≤ 971 := by
        rw [unitExponent]
        omega
      refine isFinite_saturated ?_
      -- With the greatest unit the significand must not be rounded up to one more bit.
      rcases Int.lt_or_eq_of_le hunit with hlt | heq
      · have hrounded := roundEven_scaledDown_le num hden
        have hwhole := Nat.mul_le_mul_right fractionBound
          (show (unitExponent num den + 1074).toNat ≤ 2044 by omega)
        refine Nat.lt_of_le_of_lt (Nat.add_le_add hwhole hrounded) ?_
        simp only [fractionBound, infinityMagnitude]
        omega
      · have hnumerator : num * twoTo (-971 : Int).toNat = num := Nat.mul_one num
        have hrounded : roundEven num (den * twoTo 971) ≤ 2 * fractionBound - 1 := by
          refine roundEven_le (Nat.mul_ne_zero hden (Nat.ne_of_gt (twoTo_pos 971))) ?_
          rw [Nat.mul_assoc, Nat.mul_comm (twoTo 971)]
          exact h
        rw [heq, hnumerator]
        exact Nat.lt_of_le_of_lt (Nat.add_le_add_left hrounded _) (by decide)

/-! ## Numbers other than NaN -/

theorem isNaN_of_isFinite {x : Binary64} (h : x.isFinite = true) : x.isNaN = false :=
  decide_eq_false (Nat.not_lt.mpr (Nat.le_of_lt (of_decide_eq_true h)))

private theorem isInfinite_of_isFinite {x : Binary64} (h : x.isFinite = true) :
    x.isInfinite = false :=
  beq_eq_false_iff_ne.mpr (Nat.ne_of_lt (of_decide_eq_true h))

private theorem isNaN_saturated (negative : Bool) (magnitude : Nat) :
    (saturated negative magnitude).isNaN = false :=
  decide_eq_false (Nat.not_lt.mpr (Nat.min_le_right magnitude infinityMagnitude))

theorem isNaN_ofRatio (negative : Bool) (num den : Nat) :
    (ofRatio negative num den).isNaN = false := by
  rw [ofRatio]
  split
  · rfl
  · exact isNaN_saturated ..

theorem isNaN_ofScientific (negative : Bool) (coefficient : Nat) (exponent : Int) :
    (ofScientific negative coefficient exponent).isNaN = false := by
  rw [ofScientific]
  split
  · rfl
  · split
    · rfl
    · split
      · rfl
      · exact isNaN_ofRatio ..

/-! ## Whole numbers -/

theorem twoTo_lt_largest : twoTo 64 < largest := by decide +kernel

theorem isFinite_ofNat {n : Nat} (h : n < twoTo 64) : (ofNat n).isFinite = true :=
  isFinite_ofRatio (by rw [Nat.one_mul]; exact Nat.le_of_lt (Nat.lt_trans h twoTo_lt_largest))

theorem isFinite_ofInt {n : Int} (h : n.natAbs < twoTo 64) : (ofInt n).isFinite = true :=
  isFinite_ofRatio (by rw [Nat.one_mul]; exact Nat.le_of_lt (Nat.lt_trans h twoTo_lt_largest))

/-! ## Whole parts and quotients -/

private theorem significand_lt (x : Binary64) : x.significand < twoTo 53 := by
  have hfraction : x.magnitude % fractionBound < fractionBound := Nat.mod_lt _ (by decide)
  have hwidth : twoTo 53 = 2 * fractionBound := rfl
  rw [significand]
  split <;> omega

private theorem scale_le {x : Binary64} (h : x.isFinite = true) : x.scale ≤ 971 := by
  have hmagnitude : x.magnitude / fractionBound < 2047 :=
    Nat.div_lt_of_lt_mul (of_decide_eq_true h)
  rw [scale]
  omega

theorem fraction_le_largest {x : Binary64} (h : x.isFinite = true) :
    x.fraction.1 ≤ x.fraction.2 * largest := by
  have hsignificand : x.significand ≤ 2 * fractionBound - 1 :=
    Nat.le_sub_one_of_lt (significand_lt x)
  have hscale : x.scale.toNat ≤ (-x.scale).toNat + 971 := by
    have := scale_le h
    omega
  calc x.significand * twoTo x.scale.toNat
      ≤ (2 * fractionBound - 1) * twoTo ((-x.scale).toNat + 971) :=
        Nat.mul_le_mul hsignificand (Nat.pow_le_pow_right (by decide) hscale)
    _ = twoTo (-x.scale).toNat * largest := by rw [twoTo_add, largest, Nat.mul_left_comm]

theorem isFinite_roundHalfAway {x : Binary64} (h : x.isFinite = true) :
    x.roundHalfAway.isFinite = true := by
  have hpos := x.fraction_snd_pos
  have hle : roundUp x.fraction.1 x.fraction.2 ≤ largest := by
    refine Nat.le_of_lt_succ (Nat.div_lt_of_lt_mul ?_)
    have := fraction_le_largest h
    rw [Nat.mul_succ, Nat.mul_assoc]
    omega
  rw [roundHalfAway, if_pos h]
  exact isFinite_ofRatio (by rwa [Nat.one_mul])

/-- The divisor is finite and at least one. -/
def Reduces (y : Binary64) : Prop :=
  y.isFinite = true ∧ y.fraction.2 ≤ y.fraction.1

instance (y : Binary64) : Decidable y.Reduces :=
  inferInstanceAs (Decidable (_ ∧ _))

theorem isFinite_div {x y : Binary64} (hx : x.isFinite = true) (hy : y.Reduces) :
    (x.div y).isFinite = true := by
  obtain ⟨hfinite, hone⟩ := hy
  have hzero : y.isZero = false := by
    refine Bool.eq_false_iff.mpr fun hzero => ?_
    have hsignificand : y.significand = 0 := by
      rw [significand, eq_of_beq hzero]
      rfl
    have hpositive := y.fraction_snd_pos
    rw [fraction, hsignificand, Nat.zero_mul] at hone
    exact absurd hpositive (by rw [fraction]; omega)
  rw [div, isNaN_of_isFinite hx, isInfinite_of_isFinite hx, isNaN_of_isFinite hfinite,
    isInfinite_of_isFinite hfinite, hzero]
  refine isFinite_ofRatio ?_
  calc x.fraction.1 * y.fraction.2
      ≤ x.fraction.2 * largest * y.fraction.1 := Nat.mul_le_mul (fraction_le_largest hx) hone
    _ = x.fraction.2 * y.fraction.1 * largest := Nat.mul_right_comm _ _ _

theorem reduces_powerOfTen {exponent : Nat} (h : exponent ≤ 308) :
    (powerOfTen exponent).Reduces := by
  have hall : ∀ below : Fin 309, (powerOfTen below).Reduces := by decide +kernel
  exact hall ⟨exponent, by omega⟩

end DocTemplate.Binary64

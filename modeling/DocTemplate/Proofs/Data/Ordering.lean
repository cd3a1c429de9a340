import DocTemplate.Data.Test
import DocTemplate.Proofs.Json.Numbers
import Mathlib.Logic.ExistsUnique

/-!
# One order behind six comparisons

Whether two sides are equal and how they are ordered is found out in two ways.  On a boolean, a
number or a text the two agree: where the sides have an order, it decides every comparison, and
where they have none, they only differ.
-/

namespace DocTemplate

open DocTemplate.Text

/-! ## Numbers other than NaN -/

namespace Binary64

theorem isNaN_of_readNumeral? {text : List Char} {x : Binary64} (h : readNumeral? text = some x) :
    x.isNaN = false := by
  rw [readNumeral?] at h
  split at h
  · cases h
    rfl
  · simp only [readUnsigned?] at h
    split at h
    · cases h
    · obtain ⟨exponent, -, rfl⟩ := Option.map_eq_some_iff.mp h
      exact isNaN_ofScientific ..

private theorem exists_compare?_iff {x y : Binary64} :
    (∃ order, x.compare? y = some order) ↔ x.isNaN = false ∧ y.isNaN = false := by
  rw [compare?]
  cases x.isNaN <;> cases y.isNaN <;> simp

end Binary64

private theorem Literal.isNaN_of_toNumber? {source : String} {x : Binary64}
    (h : (Literal.parse source).toNumber? = some x) : x.isNaN = false := by
  rw [Literal.parse, Literal.ofChars] at h
  split at h
  · next hread =>
      cases h
      exact Binary64.isNaN_of_readNumeral? hread
  · split at h
    · cases h
      rfl
    · split at h
      · cases h
        rfl
      · rw [toNumber?] at h
        exact Binary64.isNaN_of_readNumeral? h

namespace Json

def isScalar : Json → Bool
  | .bool _ | .number _ | .text _ => true
  | _ => false

private theorem isNaN_of_toNumber? {value : Json} {x : Binary64} (hscalar : value.isScalar = true)
    (hfits : value.Fits) (h : value.toNumber? = some x) : x.isNaN = false := by
  cases value with
  | bool value =>
      cases h
      cases value <;> rfl
  | number value =>
      cases value with
      | whole value =>
          cases h
          exact Binary64.isNaN_ofRatio ..
      | float value =>
          cases h
          exact Binary64.isNaN_of_isFinite (fits_number.mp hfits)
  | text value => exact Binary64.isNaN_of_readNumeral? h
  | _ => cases hscalar

end Json

/-! ## One order -/

inductive Comparable : Json → Literal → Prop
  | texts (left right : String) : Comparable (.text left) (.text right)
  | numbers {value : Json} {right : Literal} {x y : Binary64} (hleft : value.toNumber? = some x)
      (hright : right.toNumber? = some y) (hx : x.isNaN = false) (hy : y.isNaN = false) :
      Comparable value right

variable {left : Option Json} {value : Json} {right : Literal} {comparison : Comparison}
  {order : Ordering}

theorem texts_or_numbers (hscalar : value.isScalar = true) (right : Literal) :
    (∃ l r, value = .text l ∧ right = .text r) ∨
      looselyEquals (some value) right = numbersEqual value.toNumber? right.toNumber? ∧
        looselyCompared (some value) right =
          value.toNumber?.bind fun x => right.toNumber?.bind x.compare? := by
  cases value with
  | text left =>
      cases right with
      | text right => exact .inl ⟨left, right, rfl, rfl⟩
      | _ => exact .inr ⟨rfl, rfl⟩
  | bool _ => exact .inr ⟨rfl, rfl⟩
  | number _ => exact .inr ⟨rfl, rfl⟩
  | _ => cases hscalar

/-- The two sides are equal just if that is their order. -/
def Agrees (left : Option Json) (right : Literal) : Prop :=
  looselyEquals left right = (looselyCompared left right == some .eq)

theorem agrees_of_absent (h : left.bind View.present = none) : Agrees left right := by
  rw [Agrees, looselyEquals.eq_def, looselyCompared.eq_def, h]
  rfl

theorem agrees_of_scalar (hscalar : value.isScalar = true) : Agrees (some value) right := by
  rcases texts_or_numbers hscalar right with ⟨l, r, rfl, rfl⟩ | ⟨hequals, hcompared⟩
  · change (l == r) = (some (compare l r) == some .eq)
    rw [Bool.eq_iff_iff, beq_iff_eq, beq_iff_eq, Option.some_inj, Std.compare_eq_iff_eq]
  · rw [Agrees, hequals, hcompared]
    cases value.toNumber? <;> cases right.toNumber? <;> rfl

theorem exists_looselyCompared_iff (hscalar : value.isScalar = true) :
    (∃ order, looselyCompared (some value) right = some order) ↔ Comparable value right := by
  rcases texts_or_numbers hscalar right with ⟨l, r, rfl, rfl⟩ | ⟨-, hcompared⟩
  · exact iff_of_true ⟨_, rfl⟩ (.texts l r)
  · constructor
    · rintro ⟨order, horder⟩
      rw [hcompared] at horder
      obtain ⟨x, hleft, horder⟩ := Option.bind_eq_some_iff.mp horder
      obtain ⟨y, hright, horder⟩ := Option.bind_eq_some_iff.mp horder
      obtain ⟨hx, hy⟩ := Binary64.exists_compare?_iff.mp ⟨order, horder⟩
      exact .numbers hleft hright hx hy
    · intro h
      cases h with
      | texts l r => exact ⟨_, rfl⟩
      | numbers hleft hright hx hy =>
          rw [hcompared, hleft, hright]
          exact Binary64.exists_compare?_iff.mpr ⟨hx, hy⟩

theorem comparable_iff_of_read {source : String} (hscalar : value.isScalar = true)
    (hfits : value.Fits) :
    Comparable value (Literal.parse source) ↔
      (∃ l r, value = .text l ∧ Literal.parse source = .text r) ∨
        value.toNumber?.isSome = true ∧ (Literal.parse source).toNumber?.isSome = true := by
  simp only [Option.isSome_iff_exists]
  constructor
  · intro h
    generalize hright : Literal.parse source = right at h
    cases h with
    | texts l r => exact .inl ⟨l, r, rfl, rfl⟩
    | numbers hleft hright hx hy => exact .inr ⟨⟨_, hleft⟩, ⟨_, hright⟩⟩
  · rintro (⟨l, r, rfl, hright⟩ | ⟨⟨x, hleft⟩, ⟨y, hright⟩⟩)
    · rw [hright]
      exact .texts l r
    · exact .numbers hleft hright (Json.isNaN_of_toNumber? hscalar hfits hleft)
        (Literal.isNaN_of_toNumber? hright)

namespace Comparison

/-- What a comparison says of two sides, from their order if they have one. -/
def decided : Comparison → Option Ordering → Bool
  | .equal, order => order == some .eq
  | .notEqual, order => order != some .eq
  | .less, order => order == some .lt
  | .greater, order => order == some .gt
  | .lessOrEqual, order => order == some .lt || order == some .eq
  | .greaterOrEqual, order => order == some .gt || order == some .eq

theorem holds_eq_decided (h : Agrees left right) :
    comparison.holds left right = comparison.decided (looselyCompared left right) := by
  rw [Agrees] at h
  cases comparison <;> simp only [holds, decided, h, bne]

/-- Exactly one of `<`, `==` and `>` holds, and `<=` and `>=` are what their names say. -/
structure Trichotomy (left : Option Json) (right : Literal) : Prop where
  one : ∃! comparison : Comparison, comparison ∈ [less, equal, greater] ∧
    comparison.holds left right = true
  lessOrEqual_iff : lessOrEqual.holds left right = true ↔
    less.holds left right = true ∨ equal.holds left right = true
  greaterOrEqual_iff : greaterOrEqual.holds left right = true ↔
    greater.holds left right = true ∨ equal.holds left right = true

def ofOrder : Ordering → Comparison
  | .lt => less
  | .eq => equal
  | .gt => greater

private theorem ofOrder_mem (order : Ordering) : ofOrder order ∈ [less, equal, greater] := by
  cases order <;> decide

private theorem decided_some_iff (order : Ordering) : ∀ comparison ∈ [less, equal, greater],
    comparison.decided (some order) = true ↔ comparison = ofOrder order := by
  cases order <;> decide

theorem trichotomy_of_compared (h : Agrees left right)
    (horder : looselyCompared left right = some order) : Trichotomy left right where
  one := by
    simp only [holds_eq_decided h, horder]
    have hiff := decided_some_iff order
    exact ⟨ofOrder order, ⟨ofOrder_mem order, (hiff _ (ofOrder_mem order)).mpr rfl⟩,
      fun comparison ⟨hmem, hdecided⟩ => (hiff comparison hmem).mp hdecided⟩
  lessOrEqual_iff := by simp only [holds_eq_decided h, decided, Bool.or_eq_true]
  greaterOrEqual_iff := by simp only [holds_eq_decided h, decided, Bool.or_eq_true]

theorem decided_none : ∀ {comparison : Comparison}, comparison ≠ notEqual →
    comparison.decided none = false := by
  rintro (_ | _) h <;> first | rfl | exact absurd rfl h

/-- To differ is not to be equal, and what is missing or null does nothing else.  A boolean, a
number or a text either has an order to the literal, which decides all other comparisons, or none,
and then it only differs too.  NaN has no order to anything, but nothing that is read is NaN. -/
theorem comparisons_agree (right : Literal) :
    (∀ left, notEqual.holds left right = !equal.holds left right) ∧
      (∀ left ∈ [none, some Json.null], ∀ comparison, comparison ≠ notEqual →
        comparison.holds left right = false) ∧
      ∀ value : Json, value.isScalar = true →
        (Comparable value right → Trichotomy (some value) right) ∧
        (¬Comparable value right → ∀ comparison, comparison ≠ notEqual →
          comparison.holds (some value) right = false) ∧
        ∀ source, value.Fits → right = Literal.parse source →
          (Comparable value right ↔ (∃ l r, value = .text l ∧ right = .text r) ∨
            value.toNumber?.isSome = true ∧ right.toNumber?.isSome = true) := by
  refine ⟨fun left => rfl, fun left hleft comparison hne => ?_, fun value hscalar =>
    ⟨fun hcomparable => ?_, fun hcomparable comparison hne => ?_, ?_⟩⟩
  · have habsent : left.bind View.present = none := by
      rcases List.mem_cons.mp hleft with rfl | hleft
      · rfl
      · obtain rfl := List.mem_singleton.mp hleft
        rfl
    have hnone : looselyCompared left right = none := by
      rw [looselyCompared.eq_def, habsent]
    rw [holds_eq_decided (agrees_of_absent habsent), hnone, decided_none hne]
  · obtain ⟨order, horder⟩ := (exists_looselyCompared_iff hscalar).mpr hcomparable
    exact trichotomy_of_compared (agrees_of_scalar hscalar) horder
  · have hnone : looselyCompared (some value) right = none :=
      Option.eq_none_iff_forall_ne_some.mpr fun order horder =>
        hcomparable ((exists_looselyCompared_iff hscalar).mp ⟨order, horder⟩)
    rw [holds_eq_decided (agrees_of_scalar hscalar), hnone, decided_none hne]
  · rintro source hfits rfl
    exact comparable_iff_of_read hscalar hfits

theorem comparisons_agree_text :
    (Json.text "10").isScalar = true ∧ Comparable (.text "10") (.text "9") ∧
      Trichotomy (some (.text "10")) (.text "9") ∧
      less.holds (some (.text "10")) (.text "9") = true ∧
      (Json.text "ten").isScalar = true ∧ (Json.text "ten").Fits ∧
      Literal.bool true = Literal.parse "true" ∧ ¬Comparable (.text "ten") (.bool true) ∧
      ∀ comparison, comparison ≠ notEqual →
        comparison.holds (some (.text "ten")) (.bool true) = false := by
  have htexts := (comparisons_agree (.text "9")).2.2 (.text "10") rfl
  have hword := (comparisons_agree (.bool true)).2.2 (.text "ten") rfl
  have hcomparable : Comparable (.text "10") (.text "9") := .texts "10" "9"
  have hless : less.holds (some (.text "10")) (.text "9") = true := by decide +kernel
  have hparse : Literal.bool true = Literal.parse "true" := rfl
  have hnone : ¬Comparable (.text "ten") (.bool true) := by
    rw [hword.2.2 "true" Json.fits_text hparse]
    rintro (⟨l, r, -, hright⟩ | ⟨hleft, -⟩)
    · cases hright
    · cases hleft
  exact ⟨rfl, hcomparable, htexts.1 hcomparable, hless, rfl, Json.fits_text, hparse, hnone,
    hword.2.1 hnone⟩

end Comparison

end DocTemplate

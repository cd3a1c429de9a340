import DocTemplate.Display.Formatter
import DocTemplate.Proofs.Display.Decimals
import DocTemplate.Proofs.Text.Scan

/-!
# Values shown with fixed decimals

The formatter `round|N` accepts counts up to a hundred, but no text has more than twenty decimals.
Up to twenty it shows exactly as many as it is asked for, unless the number is too large to be
scaled.
-/

namespace DocTemplate.Formatter

open DocTemplate.Text
open DocTemplate.Binary64 hiding numeral

/-! ## Reading -/

theorem parse_round {places : Nat} (h : places < indexBound) :
    parse ("round|" ++ numeral places) = .round (min places maxArgument) := by
  have htext : ("round|" ++ numeral places).toList = "round".toList ++ '|' :: digits places := by
    rw [String.toList_append, numeral, String.toList_ofList (l := digits places)]
    rfl
  have hbar : '|' ∉ digits places := fun hmem => absurd (isDigit_of_mem_digits '|' hmem) (by decide)
  have hpieces : splitAt '|' ("round|" ++ numeral places).toList =
      ["round".toList, digits places] := by
    rw [htext, splitAt_append (by decide), splitAt_of_notMem hbar]
  have hargument : argument? ["round".toList, digits places] = some (digits places) := by
    rw [argument?, trim_digits, if_neg (by simp [digits_ne_nil])]
  have hname : String.ofList (trim "round".toList) = "round" := by decide
  rw [parse]
  simp only [hpieces, hargument, List.headD_cons, hname, Option.bind_some, readIndex?_digits h,
    Option.getD_some]

/-! ## Showing -/

/-- A text with exactly that many decimals, or the fault of a number that has no such text. -/
def ShowsDecimals (places : Nat) (value : Json) (outcome : Except FormatError String) : Prop :=
  (∃ text, outcome = .ok text ∧ SignedDecimalText places text.toList) ∨
    outcome = .error ⟨"round", value.displayText, .outOfRange⟩

/-- A number is shown with as many decimals as are asked for but no more than twenty, and it is shown
if it can be scaled by that power of ten. -/
theorem round_shows_at_most_twenty_decimals {places : Nat} (hplaces : places < indexBound)
    {value : Json} {number : Binary64} (hnumber : value.toNumber? = some number)
    (pattern : String) :
    ShowsDecimals (min places Display.maxPlaces) value
        ((parse ("round|" ++ numeral places)).apply value pattern) ∧
      ((∃ text, (parse ("round|" ++ numeral places)).apply value pattern = .ok text) ↔
        (number.mul (powerOfTen (min places Display.maxPlaces))).isFinite = true) := by
  rw [parse_round hplaces, apply, numeric, hnumber]
  dsimp only
  rw [Display.rounded?_min (show Display.maxPlaces ≤ maxArgument by decide)]
  cases hrounded : Display.rounded? number places with
  | some text =>
      have hdecimals := Display.signedDecimalText_of_rounded? hrounded
      refine ⟨.inl ⟨String.ofList text, rfl, by rwa [String.toList_ofList]⟩, ?_⟩
      exact iff_of_true ⟨_, rfl⟩ (Display.rounded?_eq_some_iff.mp hrounded).1
  | none =>
      refine ⟨.inr rfl, iff_of_false ?_ fun hfinite => ?_⟩
      · rintro ⟨text, htext⟩
        cases htext
      · rw [Display.rounded?_eq_some_iff.mpr ⟨hfinite, rfl⟩] at hrounded
        cases hrounded

theorem round_shows_at_most_twenty_decimals_of_one_half :
    3 < indexBound ∧ (Json.text "0.5").toNumber? = some ((ofNat 1).div (ofNat 2)) ∧
      ShowsDecimals 3 (.text "0.5")
        ((parse ("round|" ++ numeral 3)).apply (.text "0.5") defaultPattern) :=
  have hnumber : (Json.text "0.5").toNumber? = some ((ofNat 1).div (ofNat 2)) := by decide +kernel
  ⟨by decide, hnumber,
    (round_shows_at_most_twenty_decimals (by decide) hnumber defaultPattern).1⟩

/-- The formatter takes twenty-one decimals, the text has twenty. -/
theorem not_showsDecimals_twenty_one :
    21 ≤ maxArgument ∧ (Json.number (.whole 1)).toNumber? = some one ∧
      ¬ShowsDecimals 21 (.number (.whole 1))
        ((parse "round|21").apply (.number (.whole 1)) defaultPattern) := by
  have happly : (parse "round|21").apply (.number (.whole 1)) defaultPattern =
      .ok "1.00000000000000000000" := by
    decide +kernel
  refine ⟨by decide, by decide +kernel, ?_⟩
  rw [happly]
  rintro (⟨text, htext, hdecimals⟩ | hfault)
  · cases htext
    exact absurd hdecimals.length_behind_point (by decide)
  · cases hfault

end DocTemplate.Formatter

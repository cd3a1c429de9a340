import DocTemplate.Json.Fields
import DocTemplate.Json.Reader
import DocTemplate.Proofs.Binary64.Finite

/-!
# Numbers in JSON

A number that has been read from a text fits 64 bits: a whole number does with or without a sign,
and a floating-point number is finite.  This holds of every number in a value that has been read.
-/

namespace DocTemplate

/-! ## Values whose numbers fit -/

def Number.Fits : Number → Prop
  | .whole value => -(Json.wordBound : Int) ≤ 2 * value ∧ value < Json.wordBound
  | .float value => value.isFinite = true

namespace Json

mutual

def Fits : Json → Prop
  | .null => True
  | .bool _ => True
  | .number value => value.Fits
  | .text _ => True
  | .list items => FitsItems items
  | .object fields => FitsFields fields

def FitsItems : List Json → Prop
  | [] => True
  | item :: rest => item.Fits ∧ FitsItems rest

def FitsFields : List (String × Json) → Prop
  | [] => True
  | (_, value) :: rest => value.Fits ∧ FitsFields rest

end

@[simp] theorem fits_list {items : List Json} :
    (Json.list items).Fits ↔ ∀ item ∈ items, item.Fits := by
  rw [Fits]
  induction items with
  | nil => simp [FitsItems]
  | cons head rest ih => simp [FitsItems, ih]

@[simp] theorem fits_object {fields : List (String × Json)} :
    (Json.object fields).Fits ↔ ∀ field ∈ fields, field.2.Fits := by
  rw [Fits]
  induction fields with
  | nil => simp [FitsFields]
  | cons head rest ih =>
      obtain ⟨key, value⟩ := head
      simp [FitsFields, ih]

@[simp] theorem fits_number {value : Number} : (Json.number value).Fits ↔ value.Fits := by rw [Fits]

@[simp] theorem fits_null : Json.null.Fits := by simp [Fits]

@[simp] theorem fits_bool {value : Bool} : (Json.bool value).Fits := by simp [Fits]

@[simp] theorem fits_text {value : String} : (Json.text value).Fits := by simp [Fits]

theorem Fits.isFinite_of_asFloat? {value : Json} {x : Binary64} (h : value.Fits)
    (hread : value.asFloat? = some x) : x.isFinite = true := by
  cases value with
  | number value =>
      rw [fits_number] at h
      cases value with
      | whole value =>
          cases hread
          refine Binary64.isFinite_ofInt ?_
          have hword : Binary64.twoTo 64 = wordBound := rfl
          rw [Number.Fits] at h
          omega
      | float value =>
          cases hread
          exact h
  | _ => cases hread

/-! ## Numerals -/

private theorem isFinite_scaleBy {steps : Nat} {x y : Binary64} {exponent : Int}
    (hx : x.isFinite = true) (h : scaleBy steps x exponent = some y) : y.isFinite = true := by
  induction steps generalizing x exponent with
  | zero =>
      cases h
      exact hx
  | succ steps ih =>
      rw [scaleBy] at h
      split at h
      · split at h
        · cases h
          exact hx
        · split at h
          · cases h
          · exact ih (Binary64.isFinite_div hx
              (Binary64.reduces_powerOfTen (by decide))) h
      · next hsmall =>
          split at h
          · dsimp only at h
            split at h
            · next hfinite =>
                cases h
                exact hfinite
            · cases h
          · next hnegative =>
              cases h
              exact Binary64.isFinite_div hx
                (Binary64.reduces_powerOfTen (by omega))

private theorem Significand.value_lt_wholeDigit {s : Significand} (h : s.value < wordBound)
    (c : Char) :
    (s.wholeDigit c).value < wordBound := by
  rw [wholeDigit]
  split
  · next hfits =>
      rw [fits, Bool.and_eq_true, decide_eq_true_eq] at hfits
      exact hfits.2
  · exact h

private theorem Significand.value_lt_fractionDigit {s : Significand} (h : s.value < wordBound)
    (c : Char) :
    (s.fractionDigit c).value < wordBound := by
  rw [fractionDigit]
  split
  · next hfits =>
      rw [fits, Bool.and_eq_true, decide_eq_true_eq] at hfits
      exact hfits.2
  · exact h

private theorem Numeral.value_lt_significand (n : Numeral) : n.significand.value < wordBound := by
  have hdigits {step : Significand → Char → Significand}
      (hstep : ∀ {s : Significand}, s.value < wordBound → ∀ c, (step s c).value < wordBound)
      (digits : List Char) {s : Significand} (h : s.value < wordBound) :
      (digits.foldl step s).value < wordBound := by
    induction digits generalizing s with
    | nil => exact h
    | cons c rest ih => exact ih (hstep h c)
  have hwhole : (n.whole.foldl Significand.wholeDigit ⟨0, 0, false⟩).value < wordBound :=
    hdigits Significand.value_lt_wholeDigit n.whole (by decide)
  rw [significand]
  split
  · exact hwhole
  · exact hdigits Significand.value_lt_fractionDigit _ hwhole

private theorem Numeral.fits_toFloat? {n : Numeral} {value : Number} (h : n.toFloat? = some value) :
    value.Fits := by
  obtain ⟨x, hx, rfl⟩ := Option.map_eq_some_iff.mp h
  obtain ⟨scaled, hscaled, rfl⟩ := Option.map_eq_some_iff.mp hx
  have hfinite : scaled.isFinite = true :=
    isFinite_scaleBy (Binary64.isFinite_ofNat n.value_lt_significand) hscaled
  exact hfinite

private theorem Numeral.fits_toNumber? {n : Numeral} {value : Number}
    (h : n.toNumber? = some value) :
    value.Fits := by
  rw [toNumber?] at h
  split at h
  · exact fits_toFloat? h
  · dsimp only at h
    split at h
    · split at h
      · cases h
        simp only [Number.Fits]
        omega
      · exact fits_toFloat? h
    · split at h
      · cases h
        simp only [Number.Fits]
        omega
      · exact fits_toFloat? h

/-! ## Tokens -/

def Token.Fits : Token → Prop
  | .number value => value.Fits
  | _ => True

private theorem fits_readNumber? {negative : Bool} {text rest : List Char} {value : Number}
    (h : readNumber? negative text = some (value, rest)) : value.Fits := by
  simp only [readNumber?, Option.bind_eq_bind, Option.bind_eq_some_iff] at h
  obtain ⟨whole, -, fraction, -, exponent, -, number, hnumber, heq⟩ := h
  cases heq
  exact Numeral.fits_toNumber? hnumber

private theorem fits_readWord? {text rest : List Char} {token : Token}
    (h : readWord? text = some (token, rest)) : token.Fits := by
  rw [readWord?] at h
  split at h
  · cases h
    trivial
  · split at h
    · cases h
      trivial
    · obtain ⟨after, -, heq⟩ := Option.map_eq_some_iff.mp h
      cases heq
      trivial

private theorem fits_readToken? {bound : Nat} {c : Char} {rest after : List Char} {token : Token}
    (h : readToken? bound c rest = some (token, after)) : token.Fits := by
  have hnumber {negative : Bool} {text : List Char}
      {wrap : Number × List Char → Token × List Char}
      (hwrap : ∀ value left, wrap (value, left) = (.number value, left))
      (h : (readNumber? negative text).map wrap = some (token, after)) : token.Fits := by
    obtain ⟨⟨value, left⟩, hvalue, heq⟩ := Option.map_eq_some_iff.mp h
    cases (hwrap value left).symm.trans heq
    exact fits_readNumber? hvalue
  rw [readToken?] at h
  repeat' split at h
  all_goals first
    | exact hnumber (fun _ _ => rfl) h
    | exact fits_readWord? h
    | (obtain ⟨found, -, heq⟩ := Option.map_eq_some_iff.mp h; cases heq; trivial)
    | (cases h; trivial)

private theorem fits_tokensIn? {steps : Nat} {text : List Char} {tokens : List Token}
    (h : tokensIn? steps text = some tokens) : ∀ token ∈ tokens, token.Fits := by
  induction steps generalizing text tokens with
  | zero =>
      cases text with
      | nil =>
          cases h
          simp
      | cons c rest => cases h
  | succ steps ih =>
      cases text with
      | nil =>
          cases h
          simp
      | cons c rest =>
          rw [tokensIn?] at h
          split at h
          · exact ih h
          · split at h
            · next token after htoken =>
                obtain ⟨others, hothers, rfl⟩ := Option.map_eq_some_iff.mp h
                exact List.forall_mem_cons.mpr ⟨fits_readToken? htoken, ih hothers⟩
            · cases h

/-! ## Values -/

def Frame.Fits : Frame → Prop
  | .list items => ∀ item ∈ items, item.Fits
  | .object fields => ∀ field ∈ fields, field.2.Fits
  | .field fields _ => ∀ field ∈ fields, field.2.Fits

structure ReadState.Fits (state : ReadState) : Prop where
  stack : ∀ frame ∈ state.stack, frame.Fits
  result : ∀ value, state.expecting = .nothing value → value.Fits

private theorem ReadState.fits_start : ReadState.Fits ⟨[], .value⟩ := by
  constructor <;> simp

namespace ReadState

variable {stack : List Frame} {token : Token} {after : ReadState}

theorem fits_complete {value : Json} (hstack : ∀ frame ∈ stack, frame.Fits) (hvalue : value.Fits)
    (h : complete value stack = some after) : after.Fits := by
  cases stack with
  | nil =>
      cases h
      exact ⟨by simp, by rintro _ ⟨⟩; exact hvalue⟩
  | cons frame outer =>
      obtain ⟨hframe, houter⟩ := List.forall_mem_cons.mp hstack
      cases frame with
      | list items =>
          cases h
          exact ⟨List.forall_mem_cons.mpr ⟨List.forall_mem_cons.mpr ⟨hvalue, hframe⟩, houter⟩,
            by rintro _ ⟨⟩⟩
      | field fields key =>
          cases h
          exact ⟨List.forall_mem_cons.mpr ⟨List.forall_mem_cons.mpr ⟨hvalue, hframe⟩, houter⟩,
            by rintro _ ⟨⟩⟩
      | object fields => cases h

private theorem fits_enter {frame : Frame} {expecting : Expecting}
    (hstack : ∀ frame ∈ stack, frame.Fits)
    (hframe : frame.Fits) (hexpecting : ∀ value, expecting ≠ .nothing value)
    (h : enter frame expecting stack = some after) : after.Fits := by
  rw [enter] at h
  split at h
  · cases h
    exact ⟨List.forall_mem_cons.mpr ⟨hframe, hstack⟩,
      fun value heq => absurd heq (hexpecting value)⟩
  · cases h

private theorem fits_takeValue (hstack : ∀ frame ∈ stack, frame.Fits) (htoken : token.Fits)
    (h : takeValue stack token = some after) : after.Fits := by
  cases token with
  | null => exact fits_complete hstack fits_null h
  | bool value => exact fits_complete hstack fits_bool h
  | number value => exact fits_complete hstack (fits_number.mpr htoken) h
  | text value => exact fits_complete hstack fits_text h
  | openList => exact fits_enter hstack (by simp [Frame.Fits]) (by simp) h
  | openObject => exact fits_enter hstack (by simp [Frame.Fits]) (by simp) h
  | closeList => cases h
  | closeObject => cases h
  | comma => cases h
  | colon => cases h

private theorem fits_close (hstack : ∀ frame ∈ stack, frame.Fits)
    (h : close stack token = some after) : after.Fits := by
  rw [close.eq_def] at h
  split at h
  · next items outer =>
      obtain ⟨hframe, houter⟩ := List.forall_mem_cons.mp hstack
      refine fits_complete houter (fits_list.mpr fun item hitem => ?_) h
      exact hframe item (List.mem_reverse.mp hitem)
  · next fields outer =>
      obtain ⟨hframe, houter⟩ := List.forall_mem_cons.mp hstack
      refine fits_complete houter (fits_object.mpr fun field hfield => ?_) h
      exact hframe field (List.mem_reverse.mp hfield)
  · cases h

private theorem fits_takeKey (hstack : ∀ frame ∈ stack, frame.Fits)
    (h : takeKey stack token = some after) : after.Fits := by
  rw [takeKey.eq_def] at h
  split at h
  · next fields outer key =>
      cases h
      obtain ⟨hframe, houter⟩ := List.forall_mem_cons.mp hstack
      exact ⟨List.forall_mem_cons.mpr ⟨hframe, houter⟩, by rintro _ ⟨⟩⟩
  · cases h

private theorem Fits.step {state : ReadState} (hstate : state.Fits) (htoken : token.Fits)
    (h : state.step token = some after) : after.Fits := by
  have hstack := hstate.stack
  obtain ⟨stack, expecting⟩ := state
  cases expecting with
  | value => exact fits_takeValue hstack htoken h
  | itemOrClose =>
      simp only [ReadState.step] at h
      split at h
      · exact fits_close hstack h
      · exact fits_takeValue hstack htoken h
  | key => exact fits_takeKey hstack h
  | keyOrClose =>
      simp only [ReadState.step] at h
      split at h
      · exact fits_close hstack h
      · exact fits_takeKey hstack h
  | colon =>
      simp only [ReadState.step] at h
      split at h
      · cases h
        exact ⟨hstack, by rintro _ ⟨⟩⟩
      · cases h
  | commaOrClose =>
      simp only [ReadState.step] at h
      split at h
      · split at h
        · cases h
          exact ⟨hstack, by rintro _ ⟨⟩⟩
        · cases h
          exact ⟨hstack, by rintro _ ⟨⟩⟩
      · exact fits_close hstack h
  | nothing result => cases h

private theorem Fits.foldlM {state : ReadState} {tokens : List Token} (hstate : state.Fits)
    (htokens : ∀ token ∈ tokens, token.Fits)
    (h : tokens.foldlM ReadState.step state = some after) : after.Fits := by
  induction tokens generalizing state with
  | nil =>
      cases h
      exact hstate
  | cons token tokens ih =>
      obtain ⟨hfirst, hothers⟩ := List.forall_mem_cons.mp htokens
      rw [List.foldlM_cons] at h
      obtain ⟨next, hnext, hrest⟩ := Option.bind_eq_some_iff.mp h
      exact ih (hstate.step hfirst hnext) hothers hrest

end ReadState

theorem fits_of_read? {text : String} {value : Json} (h : read? text = some value) :
    value.Fits := by
  obtain ⟨tokens, htokens, hvalue⟩ := Option.bind_eq_some_iff.mp h
  rw [ofTokens?] at hvalue
  split at hvalue
  · next stack result hstate =>
      cases hvalue
      exact (ReadState.fits_start.foldlM (fits_tokensIn? htokens) hstate).result _ rfl
  · cases hvalue

end Json

end DocTemplate

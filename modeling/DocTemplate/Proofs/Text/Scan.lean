import DocTemplate.Text.Scan
import Mathlib.Data.List.Infix

/-!
# Splitting undoes joining

A piece without the separator is not split, a text between a lead and a tail is found again, and a
text is cut where the pattern occurs for the first time.
-/

namespace DocTemplate.Text

variable {separator : Char} {piece : List Char}

theorem splitAt_of_notMem (h : separator ∉ piece) : splitAt separator piece = [piece] := by
  induction piece with
  | nil => rfl
  | cons c piece ih =>
      obtain ⟨hc, hpiece⟩ := List.ne_and_not_mem_of_not_mem_cons h
      rw [splitAt, if_neg (Ne.symm hc), ih hpiece]

theorem splitAt_append (h : separator ∉ piece) (rest : List Char) :
    splitAt separator (piece ++ separator :: rest) = piece :: splitAt separator rest := by
  induction piece with
  | nil => simp [splitAt]
  | cons c piece ih =>
      obtain ⟨hc, hpiece⟩ := List.ne_and_not_mem_of_not_mem_cons h
      rw [List.cons_append, splitAt, if_neg (Ne.symm hc), ih hpiece]

theorem one_lt_length_splitAt {text : List Char} :
    1 < (splitAt separator text).length ↔ separator ∈ text := by
  constructor
  · intro h
    by_contra hmem
    rw [splitAt_of_notMem hmem] at h
    exact absurd h (lt_irrefl 1)
  · intro h
    obtain ⟨before, after, rfl, hbefore⟩ := List.eq_append_cons_of_mem h
    rw [splitAt_append hbefore, List.length_cons]
    have hafter := List.length_pos_of_ne_nil (splitAt_ne_nil separator after)
    omega

/-! ## Pieces -/

/-- The pieces that separators cut a text into; a text without one is a single piece. -/
structure Pieces (separator : Char) (text : List Char) (pieces : List (List Char)) : Prop where
  nonempty : pieces ≠ []
  plain : ∀ piece ∈ pieces, separator ∉ piece
  joined : [separator].intercalate pieces = text

private theorem splitAt_eq_splitOn (separator : Char) (text : List Char) :
    splitAt separator text = text.splitOn separator := by
  induction text with
  | nil => rfl
  | cons c rest ih =>
      obtain ⟨piece, pieces, hrest⟩ := List.exists_cons_of_ne_nil (splitAt_ne_nil separator rest)
      rw [splitAt, List.splitOn_cons_eq_if_modifyHead, ← ih, hrest]
      simp only [beq_iff_eq, List.modifyHead_cons]

private theorem plain_splitAt (separator : Char) (text : List Char) :
    ∀ piece ∈ splitAt separator text, separator ∉ piece := by
  induction text with
  | nil => simp [splitAt]
  | cons c rest ih =>
      obtain ⟨first, pieces, hrest⟩ := List.exists_cons_of_ne_nil (splitAt_ne_nil separator rest)
      rw [hrest] at ih
      rw [splitAt, hrest]
      split
      · simpa using ih
      · next hc =>
          rw [List.forall_mem_cons] at ih ⊢
          exact ⟨List.not_mem_cons_of_ne_of_not_mem (Ne.symm hc) ih.1, ih.2⟩

theorem splitAt_eq_iff {text : List Char} {pieces : List (List Char)} :
    splitAt separator text = pieces ↔ Pieces separator text pieces := by
  rw [splitAt_eq_splitOn]
  constructor
  · rintro rfl
    refine ⟨?_, ?_, List.intercalate_splitOn separator⟩
    · rw [← splitAt_eq_splitOn]
      exact splitAt_ne_nil separator text
    · rw [← splitAt_eq_splitOn]
      exact plain_splitAt separator text
  · rintro ⟨hne, hplain, rfl⟩
    exact List.splitOn_intercalate separator hplain hne

/-! ## Enclosed texts -/

theorem enclosed?_append (lead inner tail : List Char) :
    enclosed? lead tail (lead ++ inner ++ tail) = some inner := by
  have hlead : lead.isPrefixOf? (lead ++ inner ++ tail) = some (inner ++ tail) := by
    rw [List.isPrefixOf?_eq_some_iff_append_eq, List.append_assoc]
  have htail : tail.reverse.isPrefixOf? (inner ++ tail).reverse = some inner.reverse := by
    rw [List.isPrefixOf?_eq_some_iff_append_eq, List.reverse_append]
  rw [enclosed?, hlead, Option.bind_some, htail, Option.map_some, List.reverse_reverse]

theorem enclosed?_eq_some_iff {lead tail text inner : List Char} :
    enclosed? lead tail text = some inner ↔ text = lead ++ inner ++ tail := by
  constructor
  · intro h
    obtain ⟨rest, hlead, hrest⟩ := Option.bind_eq_some_iff.mp h
    obtain ⟨reversed, htail, rfl⟩ := Option.map_eq_some_iff.mp hrest
    rw [List.isPrefixOf?_eq_some_iff_append_eq] at hlead htail
    rw [← hlead, ← List.reverse_reverse rest, ← htail, List.reverse_append, List.reverse_reverse,
      List.append_assoc]
  · rintro rfl
    exact enclosed?_append lead inner tail

/-! ## Cutting at a pattern -/

variable {pattern : List Char}

theorem cutAt?_eq_none_iff {text : List Char} :
    cutAt? pattern text = none ↔ ¬pattern <:+: text := by
  induction text with
  | nil => simp [cutAt?]
  | cons c rest ih =>
      rw [cutAt?, List.infix_cons_iff, ← List.isPrefixOf_iff_prefix,
        ← List.isSome_isPrefixOf?_eq_isPrefixOf, not_or, ← ih]
      cases pattern.isPrefixOf? (c :: rest) <;> simp

theorem cutAt?_append_self (pattern rest : List Char) :
    cutAt? pattern (pattern ++ rest) = some ([], rest) := by
  have hfirst : pattern.isPrefixOf? (pattern ++ rest) = some rest :=
    List.isPrefixOf?_eq_some_iff_append_eq.mpr rfl
  cases htext : pattern ++ rest with
  | nil =>
      obtain ⟨rfl, rfl⟩ := List.append_eq_nil_iff.mp htext
      rfl
  | cons c text =>
      rw [htext] at hfirst
      rw [cutAt?, hfirst]

private theorem prefix_of_prefix_append_cons {rest : List Char} (hseparator : separator ∉ pattern)
    (h : pattern <+: piece ++ separator :: rest) : pattern <+: piece := by
  rcases List.prefix_or_prefix_of_prefix h (List.prefix_append piece (separator :: rest)) with
    hpattern | ⟨beyond, rfl⟩
  · exact hpattern
  · cases beyond with
    | nil => simp
    | cons c beyond =>
        have hbeyond := (List.prefix_append_right_inj piece).mp h
        obtain rfl := (List.cons_prefix_cons.mp hbeyond).1
        simp at hseparator

theorem cutAt?_append_cons (hseparator : separator ∉ pattern) (hpiece : ¬pattern <:+: piece)
    (rest : List Char) :
    cutAt? pattern (piece ++ separator :: rest) =
      (cutAt? pattern rest).map fun (before, after) => (piece ++ separator :: before, after) := by
  have hfirst {piece : List Char} (hpiece : ¬pattern <:+: piece) :
      pattern.isPrefixOf? (piece ++ separator :: rest) = none := by
    rw [← Option.not_isSome_iff_eq_none, List.isSome_isPrefixOf?_eq_isPrefixOf,
      List.isPrefixOf_iff_prefix]
    exact fun h => hpiece (prefix_of_prefix_append_cons hseparator h).isInfix
  induction piece with
  | nil =>
      have hnone := hfirst hpiece
      rw [List.nil_append] at hnone ⊢
      rw [cutAt?, hnone]
      rfl
  | cons c piece ih =>
      have hnone := hfirst hpiece
      have hrest : ¬pattern <:+: piece := fun h => hpiece (List.infix_cons h)
      rw [List.cons_append] at hnone ⊢
      rw [cutAt?, hnone, ih hrest, Option.map_map]
      rfl

/-- The text is cut at an occurrence of the pattern, and there is none that begins earlier. -/
structure FirstCut (pattern text before after : List Char) : Prop where
  joined : text = before ++ pattern ++ after
  first : ∀ earlier rest, text = earlier ++ pattern ++ rest → before.length ≤ earlier.length

private theorem FirstCut.cons {c : Char} {text before after : List Char}
    (h : FirstCut pattern text before after) (hfirst : ¬pattern <+: c :: text) :
    FirstCut pattern (c :: text) (c :: before) after where
  joined := by rw [h.joined]; rfl
  first earlier rest heq := by
    cases earlier with
    | nil => exact absurd ⟨rest, heq.symm⟩ hfirst
    | cons d earlier => exact Nat.succ_le_succ (h.first earlier rest (List.cons.inj heq).2)

private theorem FirstCut.unique {text before after before' after' : List Char}
    (h : FirstCut pattern text before after) (h' : FirstCut pattern text before' after') :
    before = before' ∧ after = after' := by
  have hlength : before.length = before'.length :=
    Nat.le_antisymm (h.first _ _ h'.joined) (h'.first _ _ h.joined)
  have heq := h.joined.symm.trans h'.joined
  rw [List.append_assoc, List.append_assoc] at heq
  obtain ⟨hbefore, hrest⟩ := List.append_inj heq hlength
  exact ⟨hbefore, List.append_cancel_left hrest⟩

private theorem firstCut_of_cutAt? {text before after : List Char}
    (h : cutAt? pattern text = some (before, after)) : FirstCut pattern text before after := by
  induction text generalizing before with
  | nil =>
      rw [cutAt?] at h
      split at h
      · next hempty =>
          cases h
          exact ⟨by simpa using hempty, fun _ _ _ => Nat.zero_le _⟩
      · cases h
  | cons c rest ih =>
      rw [cutAt?] at h
      split at h
      · next found hfound =>
          cases h
          exact ⟨(List.isPrefixOf?_eq_some_iff_append_eq.mp hfound).symm, fun _ _ _ => Nat.zero_le _⟩
      · next hnone =>
          obtain ⟨⟨before, after⟩, hcut, heq⟩ := Option.map_eq_some_iff.mp h
          cases heq
          refine (ih hcut).cons fun hprefix => ?_
          rw [← List.isPrefixOf_iff_prefix, ← List.isSome_isPrefixOf?_eq_isPrefixOf, hnone] at hprefix
          cases hprefix

theorem cutAt?_eq_some_iff {text before after : List Char} :
    cutAt? pattern text = some (before, after) ↔ FirstCut pattern text before after := by
  refine ⟨firstCut_of_cutAt?, fun h => ?_⟩
  cases hcut : cutAt? pattern text with
  | none => exact absurd ⟨before, after, h.joined.symm⟩ (cutAt?_eq_none_iff.mp hcut)
  | some cut =>
      obtain ⟨hbefore, hafter⟩ := h.unique (firstCut_of_cutAt? hcut)
      rw [hbefore, hafter]

end DocTemplate.Text

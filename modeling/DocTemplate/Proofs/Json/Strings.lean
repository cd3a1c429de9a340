import DocTemplate.Json.Printer
import DocTemplate.Json.Reader

/-!
# Strings read back

A string that is written with its escapes is read as the same string, so a JSON text that holds a
single string is read as that string.
-/

namespace DocTemplate.Json

/-! ## Escapes -/

private theorem hexValue?_hexDigit :
    ∀ digit < 16, hexValue? (hexDigit digit) = some digit := by decide

private theorem readUnicodeEscape?_control {c : Char} (h : c.toNat < 32) (rest : List Char) :
    readUnicodeEscape? ('0' :: '0' :: hexDigit (c.toNat / 16) :: hexDigit (c.toNat % 16) :: rest) =
      some (c, rest) := by
  have hzero : hexValue? '0' = some 0 := by decide
  have hunit : readUnit?
      ('0' :: '0' :: hexDigit (c.toNat / 16) :: hexDigit (c.toNat % 16) :: rest) =
        some (c.toNat, rest) := by
    have hvalue : ((0 * 16 + 0) * 16 + c.toNat / 16) * 16 + c.toNat % 16 = c.toNat := by omega
    simp only [readUnit?, hzero, hexValue?_hexDigit (c.toNat / 16) (by omega),
      hexValue?_hexDigit (c.toNat % 16) (by omega), Option.bind_eq_bind, Option.bind_some, hvalue]
    rfl
  have hlow : isLowSurrogate c.toNat = false := by
    simp only [isLowSurrogate, Bool.and_eq_false_iff, decide_eq_false_iff_not]
    omega
  have hhigh : isHighSurrogate c.toNat = false := by
    simp only [isHighSurrogate, Bool.and_eq_false_iff, decide_eq_false_iff_not]
    omega
  simp [readUnicodeEscape?, hunit, hlow, hhigh]

private theorem readString?_escapeChar (c : Char) (steps : Nat) (rest : List Char) :
    readString? (steps + 1) (escapeChar c ++ rest) =
      (readString? steps rest).map fun (chars, rest) => (c :: chars, rest) := by
  have hescaped {mark : Char} {code : List Char}
      (hread : readEscape? (mark :: code ++ rest) = some (c, rest)) :
      readString? (steps + 1) ('\\' :: mark :: code ++ rest) =
        (readString? steps rest).map fun (chars, rest) => (c :: chars, rest) := by
    rw [List.cons_append, readString?, if_neg (by decide), if_pos rfl, hread]
  by_cases hspecial : c = '"' ∨ c = '\\' ∨ c = '\x08' ∨ c = '\x0c' ∨ c = '\n' ∨ c = '\r' ∨ c = '\t'
  · rcases hspecial with rfl | rfl | rfl | rfl | rfl | rfl | rfl <;> exact hescaped rfl
  · simp only [not_or] at hspecial
    obtain ⟨hquote, hbackslash, hbackspace, hformFeed, hnewline, hreturn, htab⟩ := hspecial
    simp only [escapeChar, hquote, hbackslash, hbackspace, hformFeed, hnewline, hreturn, htab,
      if_false]
    split
    · next hcontrol => exact hescaped (readUnicodeEscape?_control hcontrol rest)
    · next hplain =>
        rw [List.singleton_append, readString?, if_neg hquote, if_neg hbackslash, if_neg hplain]

/-! ## Strings -/

private theorem readString?_escaped {steps : Nat} {text : List Char} (h : text.length < steps)
    (rest : List Char) :
    readString? steps (text.flatMap escapeChar ++ '"' :: rest) = some (text, rest) := by
  induction text generalizing steps with
  | nil =>
      obtain ⟨steps, rfl⟩ := Nat.exists_eq_add_one.mpr h
      rfl
  | cons c text ih =>
      obtain ⟨steps, rfl⟩ := Nat.exists_eq_add_one.mpr (Nat.zero_lt_of_lt h)
      rw [List.flatMap_cons, List.append_assoc, readString?_escapeChar,
        ih (Nat.lt_of_succ_lt_succ h)]
      rfl

private theorem length_le_length_escaped (text : List Char) :
    text.length ≤ (text.flatMap escapeChar).length := by
  induction text with
  | nil => exact Nat.zero_le _
  | cons c text ih =>
      have hone : 1 ≤ (escapeChar c).length := by
        rw [escapeChar]
        repeat' split
        all_goals simp
      rw [List.flatMap_cons, List.length_append, List.length_cons]
      omega

private theorem tokens?_quoted (text : String) :
    tokens? (quoted text).toList = some [.text text] := by
  have hlength := length_le_length_escaped text.toList
  have hsteps : text.toList.length < (text.toList.flatMap escapeChar ++ ['"']).length := by
    rw [List.length_append, List.length_singleton]
    omega
  rw [quoted, String.toList_ofList, tokens?, List.cons_append, List.length_cons, tokensIn?,
    if_neg (by decide), readToken?]
  simp only [Char.reduceEq, if_false, if_true]
  rw [readString?_escaped hsteps]
  simp [tokensIn?]

theorem read?_compact_text (text : String) : read? (compact (.text text)) = some (.text text) := by
  rw [read?, compact, tokens?_quoted]
  rfl

end DocTemplate.Json

import DocTemplate.Data.Test
import DocTemplate.Proofs.Text.Blank
import DocTemplate.Proofs.Text.Scan

/-!
# Comparisons read back

A comparison that is written with blanks around its token is split at that token, unless a token of
lower rank occurs in the literal: tokens are looked for by rank and not by place.
-/

namespace DocTemplate

open DocTemplate.Text

/-! ## Tokens -/

namespace Comparison

/-- Tokens of a lower rank are looked for first. -/
def rank : Comparison → Nat
  | .greaterOrEqual => 0
  | .lessOrEqual => 1
  | .equal => 2
  | .notEqual => 3
  | .greater => 4
  | .less => 5

def OccursIn (comparison : Comparison) (text : String) : Prop :=
  comparison.token.toList <:+: text.toList

instance (comparison : Comparison) (text : String) : Decidable (comparison.OccursIn text) :=
  inferInstanceAs (Decidable (_ <:+: _))

private theorem mem_all (comparison : Comparison) :
    comparison ∈ all := by cases comparison <;> decide

private theorem all_pairwise : all.Pairwise (·.rank < ·.rank) := by decide

theorem space_notMem_token (comparison : Comparison) : ' ' ∉ comparison.token.toList := by
  cases comparison <;> decide

theorem exists_mem_token (comparison : Comparison) :
    ∃ c ∈ comparison.token.toList, isBlank c = false := by
  cases comparison <;> exact ⟨_, List.mem_cons_self, rfl⟩

/-- A token is part of tokens of a lower rank only, as `>` is part of `>=`. -/
theorem not_infix_token {earlier comparison : Comparison} (h : earlier.rank < comparison.rank) :
    ¬earlier.token.toList <:+: comparison.token.toList := by
  revert h
  cases earlier <;> cases comparison <;> decide

end Comparison

/-! ## Numerals -/

namespace Binary64

variable {c : Char}

private theorem readUnsigned?_eq_none (hpoint : c ≠ '.') (hdigit : isDigit c = false)
    (negative : Bool) (rest : List Char) : readUnsigned? negative (c :: rest) = none := by
  have hspan : (c :: rest).span isDigit = ([], c :: rest) := by
    simp [List.span_eq_takeWhile_dropWhile, hdigit]
  have hfraction : splitFraction (c :: rest) = ([], c :: rest) := by
    simp [splitFraction, hpoint]
  simp only [readUnsigned?, hspan, hfraction]
  rfl

private theorem readNumeral?_eq_none (hblank : isBlank c = false) (hsign : c ≠ '-' ∧ c ≠ '+')
    (hpoint : c ≠ '.') (hdigit : isDigit c = false) (rest : List Char) :
    readNumeral? (c :: rest) = none := by
  have hunsigned (rest : List Char) : splitSign (c :: rest) = (false, c :: rest) := by
    simp [splitSign, hsign]
  rw [readNumeral?, trim_cons_of_not_blank hblank]
  simp only [hunsigned, readUnsigned?_eq_none hpoint hdigit]
  rfl

end Binary64

/-! ## Quoted texts -/

namespace Literal

def quoted (quote : Char) (text : String) : String :=
  String.singleton quote ++ text ++ String.singleton quote

variable {quote : Char}

theorem toList_quoted (quote : Char) (text : String) :
    (quoted quote text).toList = [quote] ++ text.toList ++ [quote] := by
  simp [quoted]

private theorem trim_quoted (hblank : isBlank quote = false) (text : String) :
    trim (quoted quote text).toList = (quoted quote text).toList := by
  rw [toList_quoted, List.append_assoc, List.singleton_append, trim_cons_of_not_blank hblank,
    trimEnd_append_of_not_blank hblank]

private theorem unquoted_quoted (hquote : quote = '\'' ∨ quote = '"') (text : String) :
    unquoted (quoted quote text).toList = text.toList := by
  rw [toList_quoted, unquoted]
  rcases hquote with rfl | rfl
  · rw [enclosed?_append]
  · have hsingle : enclosed? ['\''] ['\''] (['"'] ++ text.toList ++ ['"']) = none := rfl
    rw [hsingle, enclosed?_append]
    rfl

private theorem parse_quoted (hquote : quote = '\'' ∨ quote = '"') (text : String) :
    parse (trimmed (quoted quote text)) = .text text := by
  have hblank : isBlank quote = false := by rcases hquote with rfl | rfl <;> rfl
  have hnumeral : Binary64.readNumeral? (quoted quote text).toList = none := by
    rw [toList_quoted]
    rcases hquote with rfl | rfl <;>
      exact Binary64.readNumeral?_eq_none rfl (by decide) (by decide) rfl _
  have htrue : (quoted quote text).toList ≠ "true".toList := by
    rcases hquote with rfl | rfl <;> simp [toList_quoted]
  have hfalse : (quoted quote text).toList ≠ "false".toList := by
    rcases hquote with rfl | rfl <;> simp [toList_quoted]
  rw [parse, toList_trimmed, trim_quoted hblank, ofChars, hnumeral]
  simp only [htrue, hfalse, if_false, unquoted_quoted hquote, String.ofList_toList]

private theorem not_occursIn_quoted {comparison : Comparison} {text : String}
    (hquote : quote = '\'' ∨ quote = '"') (h : ¬comparison.OccursIn text) :
    ¬comparison.OccursIn (quoted quote text) := by
  have htoken : quote ∉ comparison.token.toList := by
    rcases hquote with rfl | rfl <;> cases comparison <;> decide
  have hnil : ¬comparison.token.toList <:+: [] := by cases comparison <;> decide
  rw [Comparison.OccursIn, ← cutAt?_eq_none_iff, toList_quoted, List.append_assoc,
    ← List.nil_append ([quote] ++ _), List.singleton_append, cutAt?_append_cons htoken hnil,
    cutAt?_append_cons htoken h, cutAt?_eq_none_iff.mpr hnil]
  rfl

end Literal

/-! ## Splitting -/

namespace Test

theorem splitComparison?_eq_some_iff {chars left right : List Char} {comparison : Comparison} :
    splitComparison? chars = some (comparison, left, right) ↔
      cutAt? comparison.token.toList chars = some (left, right) ∧
        ∀ earlier : Comparison, earlier.rank < comparison.rank →
          cutAt? earlier.token.toList chars = none := by
  have hpairwise := Comparison.all_pairwise
  rw [splitComparison?, List.findSome?_eq_some_iff]
  constructor
  · rintro ⟨before, found, after, hall, hfound, hbefore⟩
    obtain ⟨cut, hcut, heq⟩ := Option.map_eq_some_iff.mp hfound
    cases heq
    refine ⟨hcut, fun earlier hrank => ?_⟩
    have hmem := hall ▸ earlier.mem_all
    rw [hall, List.pairwise_append, List.pairwise_cons] at hpairwise
    rcases List.mem_append.mp hmem with hmem | hmem
    · exact Option.map_eq_none_iff.mp (hbefore earlier hmem)
    · rcases List.mem_cons.mp hmem with rfl | hmem
      · exact absurd hrank (lt_irrefl _)
      · exact absurd hrank (lt_asymm (hpairwise.2.1.1 earlier hmem))
  · rintro ⟨hcut, hearlier⟩
    obtain ⟨before, after, hall⟩ := List.append_of_mem comparison.mem_all
    rw [hall, List.pairwise_append] at hpairwise
    refine ⟨before, comparison, after, hall, by rw [hcut]; rfl, fun earlier hmem => ?_⟩
    exact Option.map_eq_none_iff.mpr
      (hearlier earlier (hpairwise.2.2 earlier hmem comparison List.mem_cons_self))

/-! ## Written comparisons -/

def written (source : String) (comparison : Comparison) (right : String) : String :=
  source ++ " " ++ comparison.token ++ " " ++ right

theorem toList_written (source : String) (comparison : Comparison) (right : String) :
    (written source comparison right).toList =
      source.toList ++ ' ' :: (comparison.token.toList ++ ' ' :: right.toList) := by
  simp [written]

variable {source right : String} {comparison : Comparison} {path : DataPath}

private theorem cutAt?_written_eq_none_iff
    (hplain : ∀ comparison : Comparison, ¬comparison.OccursIn source)
    {earlier : Comparison} (h : earlier.rank < comparison.rank) :
    cutAt? earlier.token.toList (written source comparison right).toList = none ↔
      ¬earlier.OccursIn right := by
  rw [toList_written, cutAt?_append_cons earlier.space_notMem_token (hplain earlier),
    cutAt?_append_cons earlier.space_notMem_token (Comparison.not_infix_token h),
    Option.map_eq_none_iff, Option.map_eq_none_iff, cutAt?_eq_none_iff, Comparison.OccursIn]

private theorem cutAt?_written (hplain : ∀ comparison : Comparison, ¬comparison.OccursIn source) :
    cutAt? comparison.token.toList (written source comparison right).toList =
      some (source.toList ++ [' '], ' ' :: right.toList) := by
  rw [toList_written, cutAt?_append_cons comparison.space_notMem_token (hplain comparison),
    cutAt?_append_self]
  rfl

/-! ## Reading -/

private theorem readChars_eq_ok_compare_iff {chars : List Char} {literal : Literal}
    (hspace : ' ' ∈ chars) (hfull : trim chars ≠ []) :
    readChars chars = .ok (.compare path comparison literal) ↔
      ∃ left right, splitComparison? chars = some (comparison, left, right) ∧
        DataPath.parse (String.ofList (trim left)) = .ok path ∧
        Literal.ofChars (trim right) = literal := by
  rw [readChars, if_neg (by simpa using hfull), if_neg (by simpa using hspace)]
  cases splitComparison? chars with
  | none => simp
  | some split =>
      obtain ⟨found, left, right⟩ := split
      cases hleft : DataPath.parse (String.ofList (trim left)) with
      | error cause => simp [hleft]
      | ok found => simp [hleft, and_comm, and_left_comm, and_assoc]

private theorem parse_eq_ok_iff {expression : String} {test : Test} :
    parse expression = .ok test ↔ readChars expression.toList = .ok test := by
  rw [parse]
  cases readChars expression.toList <;> simp [Except.mapError]

theorem parse_written_iff (hpath : DataPath.parse source = .ok path)
    (htrimmed : trimmed source = source)
    (hplain : ∀ comparison : Comparison, ¬comparison.OccursIn source) :
    parse (written source comparison right) =
        .ok (.compare path comparison (Literal.parse (trimmed right))) ↔
      ∀ earlier : Comparison, earlier.rank < comparison.rank → ¬earlier.OccursIn right := by
  have hspace : ' ' ∈ (written source comparison right).toList := by simp [toList_written]
  have hfull : trim (written source comparison right).toList ≠ [] := by
    obtain ⟨c, hc, hblank⟩ := comparison.exists_mem_token
    exact trim_ne_nil (by simp [toList_written, hc]) hblank
  rw [parse_eq_ok_iff, readChars_eq_ok_compare_iff hspace hfull]
  constructor
  · rintro ⟨left, after, hsplit, -, -⟩ earlier hrank
    exact (cutAt?_written_eq_none_iff hplain hrank).mp
      ((splitComparison?_eq_some_iff.mp hsplit).2 earlier hrank)
  · intro hearlier
    refine ⟨source.toList ++ [' '], ' ' :: right.toList,
      splitComparison?_eq_some_iff.mpr ⟨cutAt?_written hplain, fun earlier hrank => ?_⟩, ?_, ?_⟩
    · exact (cutAt?_written_eq_none_iff hplain hrank).mpr (hearlier earlier hrank)
    · have hleft : String.ofList (trim source.toList) = source := htrimmed
      rw [trim_append_of_blank rfl, hleft, hpath]
    · rw [trim_cons_of_blank rfl, Literal.parse, toList_trimmed]

theorem evaluate_written_quoted {quote : Char} {text value : String} {view : View}
    {scope : Option Json} (hpath : DataPath.parse source = .ok path)
    (htrimmed : trimmed source = source)
    (hplain : ∀ comparison : Comparison, ¬comparison.OccursIn source)
    (hquote : quote = '\'' ∨ quote = '"') (hgreater : ¬Comparison.greaterOrEqual.OccursIn text)
    (hless : ¬Comparison.lessOrEqual.OccursIn text)
    (hvalue : path.lookup? view scope = some (.text value)) :
    evaluate (written source .equal (Literal.quoted quote text)) view scope = true ↔
      value = text := by
  have hearlier (earlier : Comparison) (hrank : earlier.rank < Comparison.equal.rank) :
      ¬earlier.OccursIn (Literal.quoted quote text) := by
    apply Literal.not_occursIn_quoted hquote
    cases earlier with
    | greaterOrEqual => exact hgreater
    | lessOrEqual => exact hless
    | _ => exact absurd hrank (by decide)
  have hparse := (parse_written_iff hpath htrimmed hplain).mpr hearlier
  rw [evaluate, hparse, Literal.parse_quoted hquote]
  simp [holds, Comparison.holds, looselyEquals, hvalue, View.present, Json.isNull]

/-- A comparison that is written with blanks around its token is read back just when no token that
is looked for first occurs in the literal.  A quoted text may hold all tokens but the first two, and
the test for being equal to it holds of that text only. -/
theorem comparisons_read_back (hpath : DataPath.parse source = .ok path)
    (htrimmed : trimmed source = source)
    (hplain : ∀ comparison : Comparison, ¬comparison.OccursIn source) :
    (∀ comparison right,
      parse (written source comparison right) =
          .ok (.compare path comparison (Literal.parse (trimmed right))) ↔
        ∀ earlier : Comparison, earlier.rank < comparison.rank → ¬earlier.OccursIn right) ∧
    ∀ quote text view scope value, quote = '\'' ∨ quote = '"' →
      ¬Comparison.greaterOrEqual.OccursIn text → ¬Comparison.lessOrEqual.OccursIn text →
      path.lookup? view scope = some (.text value) →
      (evaluate (written source .equal (Literal.quoted quote text)) view scope = true ↔
        value = text) :=
  ⟨fun _ _ => parse_written_iff hpath htrimmed hplain,
    fun _ _ _ _ _ => evaluate_written_quoted hpath htrimmed hplain⟩

/-- A token of lower rank in the literal splits the text in another place, also from within quotes;
the others are part of the literal. -/
theorem comparisons_read_back_name :
    let path : DataPath := ⟨"name", [.field "name"], false⟩
    let view : View := .ofFields [("name", .text "a > 'b'")]
    DataPath.parse "name" = .ok path ∧ trimmed "name" = "name" ∧
      parse "name == a > b" = .ok (.compare path .equal (.text "a > b")) ∧
      parse "name > a == b" ≠ .ok (.compare path .greater (.text "a == b")) ∧
      evaluate "name == 'a > 'b''" view none = true := by
  intro path view
  have hpath : DataPath.parse "name" = .ok path := by rfl
  have htrimmed : trimmed "name" = "name" := by rfl
  have hplain (comparison : Comparison) : ¬comparison.OccursIn "name" := by
    cases comparison <;> decide
  have hvalue : path.lookup? view none = some (.text "a > 'b'") := by rfl
  obtain ⟨hread, hholds⟩ := comparisons_read_back hpath htrimmed hplain
  refine ⟨hpath, htrimmed, (hread .equal "a > b").mpr ?_, fun hwrong => ?_, ?_⟩
  · intro earlier
    cases earlier <;> decide
  · exact (hread .greater "a == b").mp hwrong .equal (by decide) (by decide)
  · exact (hholds '\'' "a > 'b'" view none _ (.inl rfl) (by decide) (by decide) hvalue).mpr rfl

end Test

end DocTemplate

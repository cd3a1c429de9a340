import DocTemplate.Proofs.Data.Scanner
import DocTemplate.Proofs.Text.Blank
import DocTemplate.Proofs.Text.Decimal
import DocTemplate.Proofs.Text.Sequence

/-!
# The grammar of data paths

Which texts are data paths and for which steps each of them stands, and which fault every other text
has.  Both are relations between a text and its parts, and every text is on one of the two sides.
-/

namespace DocTemplate.DataPath

open DocTemplate.Text

/-! ## Brackets -/

inductive IndicesText : List Char → List Nat → Prop
  | nil : IndicesText [] []
  | cons {index rest : List Char} {position : Nat} {positions : List Nat}
      (hindex : IsIndex (trim index) position) (hrest : IndicesText rest positions) :
      IndicesText ('[' :: index ++ ']' :: rest) (position :: positions)

/-- The bracket in front of a text is at fault.  The first closing bracket closes it. -/
inductive BracketFault : List Char → DataPathFault → Prop
  | unclosed {rest : List Char} (h : ']' ∉ rest) :
      BracketFault ('[' :: rest) .unterminatedBracket
  | empty {rest : List Char} : BracketFault ('[' :: ']' :: rest) .misplacedMarker
  | invalid {index rest : List Char} (hne : index ≠ []) (hclosed : ']' ∉ index)
      (h : ∀ position, ¬IsIndex (trim index) position) :
      BracketFault ('[' :: index ++ ']' :: rest) (.invalidIndex (String.ofList index))
  | followed {index rest : List Char} {position : Nat} {c : Char}
      (hindex : IsIndex (trim index) position) (hc : c ≠ '[') :
      BracketFault ('[' :: index ++ ']' :: c :: rest) .unterminatedBracket

/-- The first bracket at fault, behind others that are not. -/
inductive BracketsFault : List Char → DataPathFault → Prop
  | first {sound rest : List Char} {positions : List Nat} {fault : DataPathFault}
      (hsound : IndicesText sound positions) (hrest : BracketFault rest fault) :
      BracketsFault (sound ++ rest) fault

variable {index brackets name segment chars : List Char} {position : Nat} {positions : List Nat}
  {fault : DataPathFault} {steps : List DataStep}

theorem close_notMem_index (h : IsIndex (trim index) position) : ']' ∉ index := fun hmem =>
  h.notMem (by decide) (by decide) (mem_trim hmem (by decide))

theorem readIndexPiece_of_isIndex (h : IsIndex (trim index) position) :
    readIndexPiece ('[' :: index) = .ok (.index position) := by
  have hne : index ≠ [] := by
    rintro rfl
    exact h.ne_nil rfl
  simp [readIndexPiece, hne, readIndex?_eq_some_iff.mpr h]

private theorem readIndexPiece_of_not_isIndex (hne : index ≠ [])
    (h : ∀ position, ¬IsIndex (trim index) position) :
    readIndexPiece ('[' :: index) = .error (.invalidIndex (String.ofList index)) := by
  have hnone : readIndex? (trim index) = none :=
    Option.eq_none_iff_forall_ne_some.mpr fun position hread =>
      h position (readIndex?_eq_some_iff.mp hread)
  simp [readIndexPiece, hne, hnone]

private theorem IndicesText.opened (h : IndicesText brackets positions) :
    ∀ c ∈ brackets.head?, c = '[' := by
  cases h with
  | nil => simp
  | cons hindex hrest => simp

private theorem BracketsFault.opened (h : BracketsFault brackets fault) :
    ∀ c ∈ brackets.head?, c = '[' := by
  obtain ⟨hsound, hrest⟩ := h
  cases hsound with
  | nil => cases hrest <;> simp
  | cons hindex hrest => simp

private theorem IndicesText.ne_marker (h : IndicesText brackets positions) :
    brackets ≠ ['[', ']'] := by
  cases h with
  | nil => simp
  | @cons index rest _ _ hindex _ =>
      intro hmarker
      obtain rfl : index = [] := by
        have hlength := congrArg List.length hmarker
        simp only [List.cons_append, List.length_cons, List.length_append, List.length_nil]
          at hlength
        exact List.length_eq_zero_iff.mp (by omega)
      exact hindex.ne_nil rfl

theorem readBrackets_append (h : IndicesText brackets positions) (rest : List Char) :
    readBrackets (brackets ++ rest) =
      (readBrackets rest).map (positions.map DataStep.index ++ ·) := by
  induction h with
  | nil =>
      simp only [List.map_nil, List.nil_append]
      cases readBrackets rest <;> rfl
  | cons hindex _ ih =>
      rw [List.append_assoc, List.cons_append (a := ']'),
        readBrackets_closed (close_notMem_index hindex), readIndexPiece_of_isIndex hindex, ih]
      cases readBrackets rest <;> rfl

private theorem readBrackets_of_indicesText (h : IndicesText brackets positions) :
    readBrackets brackets = .ok (positions.map .index) := by
  have hread := readBrackets_append h []
  rw [List.append_nil] at hread
  rw [hread]
  exact congrArg Except.ok (List.append_nil _)

private theorem readBrackets_of_bracketFault (h : BracketFault brackets fault) :
    readBrackets brackets = .error fault := by
  cases h with
  | unclosed h => exact readBrackets_unclosed (List.not_mem_cons_of_ne_of_not_mem (by decide) h)
  | empty =>
      rw [← List.nil_append (']' :: _), ← List.cons_append, readBrackets_closed List.not_mem_nil]
      rfl
  | invalid hne hclosed h =>
      rw [readBrackets_closed hclosed, readIndexPiece_of_not_isIndex hne h]
      rfl
  | followed hindex hc =>
      rw [readBrackets_closed (close_notMem_index hindex), readIndexPiece_of_isIndex hindex,
        readBrackets_not_opened hc]
      rfl

private theorem readBrackets_of_bracketsFault (h : BracketsFault brackets fault) :
    readBrackets brackets = .error fault := by
  obtain ⟨hsound, hrest⟩ := h
  rw [readBrackets_append hsound, readBrackets_of_bracketFault hrest]
  rfl

private theorem exists_indicesText_or_bracketsFault (brackets : List Char)
    (hopened : ∀ c ∈ brackets.head?, c = '[') :
    (∃ positions, IndicesText brackets positions) ∨ ∃ fault, BracketsFault brackets fault := by
  have hfirst {brackets : List Char} {fault : DataPathFault} (h : BracketFault brackets fault) :
      BracketsFault brackets fault := .first .nil h
  cases brackets with
  | nil => exact .inl ⟨[], .nil⟩
  | cons c rest =>
      obtain rfl : c = '[' := hopened c rfl
      -- only behind a bracket with an index is there anything more to decide
      by_cases hclosed : ']' ∈ rest
      · obtain ⟨index, after, rfl, hindex⟩ := List.eq_append_cons_of_mem hclosed
        by_cases hposition : ∃ position, IsIndex (trim index) position
        · obtain ⟨position, hposition⟩ := hposition
          by_cases hafter : ∀ c ∈ after.head?, c = '['
          · rcases exists_indicesText_or_bracketsFault after hafter with
              ⟨positions, hpositions⟩ | ⟨fault, hsound, hrest⟩
            · exact .inl ⟨position :: positions, .cons hposition hpositions⟩
            · refine .inr ⟨fault, ?_⟩
              rw [← List.cons_append, ← List.cons_append, ← List.append_assoc]
              exact .first (.cons hposition hsound) hrest
          · cases after with
            | nil => simp at hafter
            | cons c after =>
                exact .inr ⟨_, hfirst (.followed hposition (by simpa using hafter))⟩
        · cases index with
          | nil => exact .inr ⟨_, hfirst .empty⟩
          | cons c index =>
              exact .inr ⟨_, hfirst (.invalid (List.cons_ne_nil c index) hindex
                (not_exists.mp hposition))⟩
      · exact .inr ⟨_, hfirst (.unclosed hclosed)⟩
termination_by brackets.length

/-! ## Segments -/

def IsName (name : List Char) : Prop := name ≠ [] ∧ '[' ∉ name

/-- The steps of a segment without blanks around it. -/
inductive SegmentText : List Char → List DataStep → Prop
  | marked {name : List Char} (hname : IsName name) :
      SegmentText (name ++ ['[', ']']) [.item (String.ofList name)]
  | indexed {name brackets : List Char} {positions : List Nat} (hname : IsName name)
      (hbrackets : IndicesText brackets positions) :
      SegmentText (name ++ brackets) (.field (String.ofList name) :: positions.map .index)

/-- The fault of a segment without blanks around it. -/
inductive SegmentFault : List Char → DataPathFault → Prop
  | unnamed {segment : List Char} (h : ∀ c ∈ segment.head?, c = '[') :
      SegmentFault segment .emptySegment
  | brackets {name brackets : List Char} {fault : DataPathFault} (hname : IsName name)
      (hmarker : brackets ≠ ['[', ']']) (hbrackets : BracketsFault brackets fault) :
      SegmentFault (name ++ brackets) fault

theorem readSegment_of_segmentText (h : SegmentText segment steps) :
    readSegment segment = .ok steps := by
  cases h with
  | marked hname =>
      rw [readSegment_append hname.2 (by simp), if_neg (by simpa using hname.1), if_pos rfl]
  | indexed hname hbrackets =>
      rw [readSegment_append hname.2 hbrackets.opened, if_neg (by simpa using hname.1),
        if_neg hbrackets.ne_marker, readBrackets_of_indicesText hbrackets]
      rfl

theorem readSegment_of_segmentFault (h : SegmentFault segment fault) :
    readSegment segment = .error fault := by
  cases h with
  | unnamed h =>
      rw [← List.nil_append segment, readSegment_append List.not_mem_nil h]
      rfl
  | brackets hname hmarker hbrackets =>
      rw [readSegment_append hname.2 hbrackets.opened, if_neg (by simpa using hname.1),
        if_neg hmarker, readBrackets_of_bracketsFault hbrackets]
      rfl

theorem SegmentText.ne_nil (h : SegmentText segment steps) : segment ≠ [] := by
  cases h with
  | marked hname => exact List.append_ne_nil_of_left_ne_nil hname.1 _
  | indexed hname _ => exact List.append_ne_nil_of_left_ne_nil hname.1 _

theorem exists_segmentText_or_segmentFault (segment : List Char) :
    (∃ steps, SegmentText segment steps) ∨ ∃ fault, SegmentFault segment fault := by
  obtain ⟨name, brackets, rfl, hplain, hopened⟩ := exists_name_brackets segment
  by_cases hname : name = []
  · subst hname
    exact .inr ⟨_, .unnamed hopened⟩
  by_cases hmarker : brackets = ['[', ']']
  · subst hmarker
    exact .inl ⟨_, .marked ⟨hname, hplain⟩⟩
  rcases exists_indicesText_or_bracketsFault brackets hopened with
    ⟨positions, hbrackets⟩ | ⟨fault, hbrackets⟩
  · exact .inl ⟨_, .indexed ⟨hname, hplain⟩ hbrackets⟩
  · exact .inr ⟨fault, .brackets ⟨hname, hplain⟩ hmarker hbrackets⟩

theorem readSegment_eq_ok_iff : readSegment segment = .ok steps ↔ SegmentText segment steps := by
  refine ⟨fun h => ?_, readSegment_of_segmentText⟩
  rcases exists_segmentText_or_segmentFault segment with ⟨steps', hsegment⟩ | ⟨fault, hsegment⟩
  · rw [readSegment_of_segmentText hsegment] at h
    exact Except.ok.inj h ▸ hsegment
  · rw [readSegment_of_segmentFault hsegment] at h
    cases h

private theorem readSegment_eq_error_iff :
    readSegment segment = .error fault ↔ SegmentFault segment fault := by
  refine ⟨fun h => ?_, readSegment_of_segmentFault⟩
  rcases exists_segmentText_or_segmentFault segment with ⟨steps, hsegment⟩ | ⟨fault', hsegment⟩
  · rw [readSegment_of_segmentText hsegment] at h
    cases h
  · rw [readSegment_of_segmentFault hsegment] at h
    exact Except.error.inj h ▸ hsegment

/-! ## Paths -/

/-- The text is not blank and the steps are those of its segments, one after another. -/
def IsPath (chars : List Char) (steps : List DataStep) : Prop :=
  (∃ c ∈ chars, isBlank c = false) ∧
    ∃ segments parts, Pieces '.' chars segments ∧
      List.Forall₂ (fun segment steps => SegmentText (trim segment) steps) segments parts ∧
      steps = parts.flatten

/-- A blank text is at fault, and otherwise the first segment that is. -/
inductive HasFault (chars : List Char) : DataPathFault → Prop
  | blank (h : ∀ c ∈ chars, isBlank c = true) : HasFault chars .empty
  | segment {before after : List (List Char)} {segment : List Char} {fault : DataPathFault}
      (hgiven : ∃ c ∈ chars, isBlank c = false)
      (hpieces : Pieces '.' chars (before ++ segment :: after))
      (hbefore : ∀ sound ∈ before, ∃ steps, SegmentText (trim sound) steps)
      (hsegment : SegmentFault (trim segment) fault) : HasFault chars fault

theorem readSegments_eq_mapM (segments : List (List Char)) :
    readSegments segments =
      (segments.mapM fun segment => readSegment (trim segment)).map List.flatten := by
  induction segments with
  | nil => rfl
  | cons segment rest ih =>
      rw [readSegments, ih, List.mapM_cons]
      cases readSegment (trim segment) with
      | error fault => rfl
      | ok steps => cases rest.mapM fun segment => readSegment (trim segment) <;> rfl

private theorem readSegments_eq_ok_iff {segments : List (List Char)} :
    readSegments segments = .ok steps ↔
      ∃ parts, List.Forall₂ (fun segment steps => SegmentText (trim segment) steps) segments parts ∧
        steps = parts.flatten := by
  simp only [← readSegment_eq_ok_iff, readSegments_eq_mapM, map_flatten_eq_ok_iff]

private theorem readSegments_eq_error_iff {segments : List (List Char)} :
    readSegments segments = .error fault ↔
      ∃ before segment after, segments = before ++ segment :: after ∧
        (∀ sound ∈ before, ∃ steps, SegmentText (trim sound) steps) ∧
        SegmentFault (trim segment) fault := by
  simp only [← readSegment_eq_ok_iff, ← readSegment_eq_error_iff, readSegments_eq_mapM,
    map_flatten_eq_error_iff]

theorem readChars_of_blank (h : ∀ c ∈ chars, isBlank c = true) :
    readChars chars = .error .empty := by
  rw [readChars, trim_eq_nil_iff.mpr h]
  rfl

theorem readChars_of_given (h : ∃ c ∈ chars, isBlank c = false) :
    readChars chars =
      (readSegments (splitAt '.' chars)).map fun steps => (steps, decide ('.' ∈ chars)) := by
  obtain ⟨c, hmem, hblank⟩ := h
  rw [readChars, if_neg (by simpa using trim_ne_nil hmem hblank)]
  simp only [one_lt_length_splitAt]
  cases readSegments (splitAt '.' chars) <;> rfl

theorem blank_or_given (chars : List Char) :
    (∀ c ∈ chars, isBlank c = true) ∨ ∃ c ∈ chars, isBlank c = false := by
  rw [or_iff_not_imp_left]
  simp

private theorem readChars_eq_ok_iff {qualified : Bool} :
    readChars chars = .ok (steps, qualified) ↔
      IsPath chars steps ∧ qualified = decide ('.' ∈ chars) := by
  rcases blank_or_given chars with hblank | hgiven
  · have hnone : ¬∃ c ∈ chars, isBlank c = false := by simpa using hblank
    simp [readChars_of_blank hblank, IsPath, hnone]
  · have hpath : IsPath chars steps ↔ readSegments (splitAt '.' chars) = .ok steps := by
      rw [IsPath, and_iff_right hgiven, readSegments_eq_ok_iff]
      simp only [← splitAt_eq_iff, exists_and_left, exists_eq_left']
    rw [readChars_of_given hgiven, hpath]
    cases readSegments (splitAt '.' chars) <;> simp [Except.map, eq_comm]

theorem readChars_eq_error_iff : readChars chars = .error fault ↔ HasFault chars fault := by
  rcases blank_or_given chars with hblank | hgiven
  · rw [readChars_of_blank hblank]
    constructor
    · intro h
      cases h
      exact .blank hblank
    · intro h
      cases h with
      | blank => rfl
      | segment hgiven => exact absurd hgiven (by simpa using hblank)
  · have hread : readChars chars = .error fault ↔
        readSegments (splitAt '.' chars) = .error fault := by
      rw [readChars_of_given hgiven]
      cases readSegments (splitAt '.' chars) <;> simp [Except.map]
    rw [hread, readSegments_eq_error_iff]
    constructor
    · rintro ⟨before, segment, after, hsegments, hbefore, hsegment⟩
      exact .segment hgiven (splitAt_eq_iff.mp hsegments) hbefore hsegment
    · intro h
      cases h with
      | blank hblank => exact absurd hgiven (by simpa using hblank)
      | segment _ hpieces hbefore hsegment =>
          exact ⟨_, _, _, splitAt_eq_iff.mpr hpieces, hbefore, hsegment⟩

variable {source : String} {path : DataPath} {error : DataPathError}

theorem parse_eq_ok_iff :
    parse source = .ok path ↔ path.source = source ∧ IsPath source.toList path.steps ∧
      path.qualified = decide ('.' ∈ source.toList) := by
  obtain ⟨text, steps, qualified⟩ := path
  rw [parse, ← readChars_eq_ok_iff]
  cases readChars source.toList <;> simp [eq_comm, Prod.ext_iff]

theorem parse_eq_error_iff :
    parse source = .error error ↔
      error.path = source ∧ HasFault source.toList error.fault := by
  obtain ⟨text, fault⟩ := error
  rw [parse, ← readChars_eq_error_iff]
  cases readChars source.toList <;> simp [eq_comm]

end DocTemplate.DataPath

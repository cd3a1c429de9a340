import DocTemplate.Proofs.Json.Strings
import DocTemplate.Proofs.Template.PathText
import DocTemplate.Proofs.Text.Sequence

/-!
# The grammar of element paths

Which texts are element paths, and for which path each of them stands.  Every index of a path
stands in its text, so a path is read back from any of the forms in which it is written.
-/

namespace DocTemplate.ElementPath

open DocTemplate.Text

/-! ## Segments -/

/-- The indices that a segment stands for: none if it is the bare word, otherwise the one in the
brackets behind the word. -/
inductive SegmentText : List Char → List Nat → Prop
  | bare : SegmentText childrenWord []
  | child {numeral : List Char} {index : Nat} (h : IsIndex numeral index) :
      SegmentText (childrenWord ++ ['['] ++ numeral ++ [']']) [index]

variable {segment chars : List Char} {indices : List Nat} {path : ElementPath} {source : String}

private theorem childrenWord_ne (numeral : List Char) :
    childrenWord ++ ['['] ++ numeral ++ [']'] ≠ childrenWord := by
  intro h
  have hlength := congrArg List.length h
  simp at hlength

private theorem readSegment_eq_ok_iff :
    readSegment segment = .ok indices ↔ SegmentText segment indices := by
  constructor
  · intro h
    rw [readSegment] at h
    split at h
    · next hbare =>
        cases h
        exact hbare ▸ .bare
    · split at h
      · cases h
      · next numeral hnumeral =>
          split at h
          · cases h
          · next index hindex =>
              cases h
              rw [enclosed?_eq_some_iff.mp hnumeral]
              exact .child (readIndex?_eq_some_iff.mp hindex)
  · intro h
    cases h with
    | bare => rfl
    | child hindex =>
        rw [readSegment, if_neg (childrenWord_ne _), enclosed?_append]
        simp only [readIndex?_eq_some_iff.mpr hindex]

private theorem SegmentText.ne_nil (h : SegmentText segment indices) : segment ≠ [] := by
  cases h with
  | bare => decide
  | child hindex => simp

private theorem SegmentText.lt_indexBound (h : SegmentText segment indices) :
    ∀ index ∈ indices, index < indexBound := by
  cases h with
  | bare => simp
  | child hindex => simpa using hindex.bound

/-! ## Texts -/

def IsText (chars : List Char) (path : ElementPath) : Prop :=
  chars = [] ∧ path = root ∨
    ∃ segments parts, Pieces '.' chars segments ∧ List.Forall₂ SegmentText segments parts ∧
      path = parts.flatten

private theorem readSegments_eq_mapM (segments : List (List Char)) :
    readSegments segments = (segments.mapM readSegment).map List.flatten := by
  induction segments with
  | nil => rfl
  | cons segment rest ih =>
      rw [readSegments, ih, List.mapM_cons]
      cases readSegment segment with
      | error fault => rfl
      | ok indices => cases rest.mapM readSegment <;> rfl

private theorem readSegments_eq_ok_iff {segments : List (List Char)} :
    readSegments segments = .ok path ↔
      ∃ parts, List.Forall₂ SegmentText segments parts ∧ path = parts.flatten := by
  simp only [readSegments_eq_mapM, map_flatten_eq_ok_iff, readSegment_eq_ok_iff]

private theorem readChars_eq_ok_iff : readChars chars = .ok path ↔ IsText chars path := by
  rw [readChars, IsText]
  cases chars with
  | nil =>
      -- the only piece of the empty text is no segment, so only the root is left
      have hsegments : ¬∃ segments parts, Pieces '.' [] segments ∧
          List.Forall₂ SegmentText segments parts ∧ path = parts.flatten := by
        rintro ⟨segments, parts, hpieces, hparts, -⟩
        obtain rfl := splitAt_eq_iff.mpr hpieces
        cases hparts with
        | cons hsegment _ => exact hsegment.ne_nil rfl
      rw [or_iff_left hsegments]
      simp [root, eq_comm]
  | cons c rest =>
      rw [List.isEmpty_cons, if_neg Bool.false_ne_true, readSegments_eq_ok_iff]
      simp only [← splitAt_eq_iff, exists_and_left, exists_eq_left', reduceCtorEq, false_and,
        false_or]

theorem parse_eq_ok_iff : parse source = .ok path ↔ IsText source.toList path := by
  rw [parse, ← readChars_eq_ok_iff]
  cases readChars source.toList <;> simp [Except.mapError]

theorem IsText.lt_indexBound (h : IsText chars path) : ∀ index ∈ path, index < indexBound := by
  rcases h with ⟨-, rfl⟩ | ⟨segments, parts, -, hparts, rfl⟩
  · simp [root]
  · induction hparts with
    | nil => simp
    | cons hsegment _ ih =>
        rw [List.flatten_cons, List.forall_mem_append]
        exact ⟨hsegment.lt_indexBound, ih⟩

/-! ## Reading back -/

private theorem ofJson?_eq_some_iff {value : Json} :
    ofJson? value = some path ↔ ∃ source, value = .text source ∧ parse source = .ok path := by
  cases value with
  | text source =>
      simp only [Json.text.injEq, exists_eq_left']
      change (parse source).toOption = some path ↔ _
      cases parse source <;> simp [Except.toOption]
  | _ => simp [ofJson?, Json.asText?]

structure ReadsBack (path : ElementPath) : Prop where
  text : parse path.text = .ok path
  value : ofJson? path.toJson = some path
  json : Json.read? path.toJson.compact = some path.toJson

theorem readsBack (h : ∀ index ∈ path, index < indexBound) : ReadsBack path where
  text := parse_text h
  value := ofJson?_eq_some_iff.mpr ⟨path.text, rfl, parse_text h⟩
  json := Json.read?_compact_text path.text

/-- A path whose indices fit 64 bits is read back in every form, the root included.  A text is read
just if it is empty or made of segments, to the indices in these and nothing else; so what is read
from a text fits 64 bits, and is read back as well. -/
theorem paths_read_back :
    (∀ path : ElementPath, (∀ index ∈ path, index < indexBound) → ReadsBack path) ∧
      ∀ source path, (parse source = .ok path ↔ IsText source.toList path) ∧
        (parse source = .ok path → ReadsBack path) :=
  ⟨fun _ => readsBack, fun _ _ => ⟨parse_eq_ok_iff, fun h =>
    readsBack (parse_eq_ok_iff.mp h).lt_indexBound⟩⟩

theorem paths_read_back_signed :
    (∀ index ∈ [1, 0], index < indexBound) ∧ ReadsBack [1, 0] ∧
      parse "children.children[+07]" = .ok [7] ∧ text [7] = "children[7]" ∧ ReadsBack [7] := by
  have hbound : ∀ index ∈ [1, 0], index < indexBound := by decide
  have hread : parse "children.children[+07]" = .ok [7] := by rfl
  have htext : text [7] = "children[7]" := by
    rw [text, chars, segmentText, digits_of_lt_ten (by decide)]
    rfl
  exact ⟨hbound, paths_read_back.1 [1, 0] hbound, hread, htext,
    (paths_read_back.2 "children.children[+07]" [7]).2 hread⟩

end DocTemplate.ElementPath

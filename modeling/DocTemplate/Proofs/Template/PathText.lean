import DocTemplate.Template.Path
import DocTemplate.Proofs.Text.Decimal
import DocTemplate.Proofs.Text.Scan

/-!
# Texts of element paths

A path is read back from its own text as long as its indices are below the bound of indices.
-/

namespace DocTemplate

open DocTemplate.Text

namespace ElementPath

theorem segmentText_eq (index : Nat) :
    segmentText index = (childrenWord ++ ['[']) ++ digits index ++ [']'] := by
  simp [segmentText]

private theorem segmentText_ne_childrenWord (index : Nat) : segmentText index ≠ childrenWord := by
  intro h
  have hlength := congrArg List.length h
  simp [segmentText] at hlength

private theorem point_notMem_segmentText (index : Nat) : '.' ∉ segmentText index := by
  intro h
  have hword : '.' ∉ childrenWord ++ ['['] := by decide
  have hdigits : '.' ∉ digits index := fun hdot =>
    absurd (isDigit_of_mem_digits '.' hdot) (by decide)
  simp only [segmentText_eq, List.mem_append] at h
  rcases h with (h | h) | h
  · exact hword (List.mem_append.mpr h)
  · exact hdigits h
  · exact absurd h (by decide)

private theorem readSegment_segmentText {index : Nat} (h : index < indexBound) :
    readSegment (segmentText index) = .ok [index] := by
  rw [readSegment, if_neg (segmentText_ne_childrenWord index), segmentText_eq, enclosed?_append]
  simp only [readIndex?_digits h]

private theorem splitAt_chars (index : Nat) (rest : ElementPath) :
    splitAt '.' (chars (index :: rest)) = (index :: rest).map segmentText := by
  induction rest generalizing index with
  | nil => exact splitAt_of_notMem (point_notMem_segmentText index)
  | cons next rest ih =>
      have hchars : chars (index :: next :: rest) =
          segmentText index ++ '.' :: chars (next :: rest) := rfl
      rw [hchars, splitAt_append (point_notMem_segmentText index), ih]
      rfl

private theorem readSegments_map {path : ElementPath} (h : ∀ index ∈ path, index < indexBound) :
    readSegments (path.map segmentText) = .ok path := by
  induction path with
  | nil => rfl
  | cons index rest ih =>
      obtain ⟨hindex, hrest⟩ := List.forall_mem_cons.mp h
      rw [List.map_cons, readSegments, readSegment_segmentText hindex, ih hrest]
      rfl

theorem parse_text {path : ElementPath} (h : ∀ index ∈ path, index < indexBound) :
    parse path.text = .ok path := by
  rw [parse, text, String.toList_ofList, readChars]
  cases path with
  | nil => rfl
  | cons index rest =>
      have hchars : (chars (index :: rest)).isEmpty = false := by
        cases rest <;> simp [chars, segmentText]
      rw [hchars, if_neg Bool.false_ne_true, splitAt_chars, readSegments_map h]
      rfl

end ElementPath

end DocTemplate

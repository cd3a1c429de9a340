import DocTemplate.Proofs.Data.Grammar

/-!
# Data paths read back

A path that is written from its segments is read to their steps.  With the grammar, and with the
agreement of the two readers, this is all there is to say about reading a data path.
-/

namespace DocTemplate.DataPath

open DocTemplate.Text

/-! ## Segments -/

inductive Behind where
  | marker
  | indices (positions : List Nat)
  deriving DecidableEq, Repr

namespace Behind

def text : Behind → List Char
  | marker => ['[', ']']
  | indices positions => positions.flatMap fun position => '[' :: digits position ++ [']']

def steps (name : String) : Behind → List DataStep
  | marker => [.item name]
  | indices positions => .field name :: positions.map .index

def positions : Behind → List Nat
  | marker => []
  | indices positions => positions

end Behind

/-- A segment that can be written: its name has no point, its indices fit 64 bits, and there are no
blanks around it. -/
structure Segment where
  name : List Char
  behind : Behind
  named : IsName name
  plain : '.' ∉ name
  bounded : ∀ position ∈ behind.positions, position < indexBound
  trimmed : trim (name ++ behind.text) = name ++ behind.text

def Segment.text (segment : Segment) : List Char := segment.name ++ segment.behind.text

def Segment.steps (segment : Segment) : List DataStep :=
  segment.behind.steps (String.ofList segment.name)

def written (segments : List Segment) : String :=
  String.ofList (['.'].intercalate (segments.map Segment.text))

variable {positions : List Nat} {segments : List Segment}

private theorem indicesText_text (h : ∀ position ∈ positions, position < indexBound) :
    IndicesText (Behind.indices positions).text positions := by
  induction positions with
  | nil => exact .nil
  | cons position rest ih =>
      obtain ⟨hposition, hrest⟩ := List.forall_mem_cons.mp h
      rw [Behind.text, List.flatMap_cons, List.append_assoc]
      exact .cons ((trim_digits position).symm ▸ isIndex_digits hposition) (ih hrest)

theorem Behind.text_of_lt_ten (h : ∀ position ∈ positions, position < 10) :
    (indices positions).text = positions.flatMap fun position => ['[', digitChar position, ']'] :=
  congrArg List.flatten (List.map_congr_left fun position hmem => by
    rw [digits_of_lt_ten (h position hmem)]
    rfl)

private theorem Segment.segmentText (segment : Segment) :
    SegmentText (trim segment.text) segment.steps := by
  obtain ⟨name, behind, named, -, bounded, trimmed⟩ := segment
  rw [Segment.text, trimmed, Segment.steps]
  cases behind with
  | marker => exact .marked named
  | indices positions => exact .indexed named (indicesText_text bounded)

private theorem Behind.point_notMem_text (behind : Behind) : '.' ∉ behind.text := by
  cases behind with
  | marker => decide
  | indices positions =>
      intro hmem
      obtain ⟨position, -, hposition⟩ := List.mem_flatMap.mp hmem
      have hdigit : '.' ∉ digits position := fun h =>
        absurd (isDigit_of_mem_digits '.' h) (by decide)
      simp [hdigit] at hposition

private theorem Segment.point_notMem_text (segment : Segment) : '.' ∉ segment.text :=
  List.not_mem_append segment.plain segment.behind.point_notMem_text

/-! ## Paths -/

theorem pieces_written (h : segments ≠ []) :
    Pieces '.' (written segments).toList (segments.map Segment.text) where
  nonempty := by simpa using h
  plain := by simpa using fun segment _ => Segment.point_notMem_text segment
  joined := String.toList_ofList.symm

private theorem exists_not_blank_of_segments {chars : List Char} {segments : List (List Char)}
    {parts : List (List DataStep)} (hpieces : Pieces '.' chars segments)
    (hparts : List.Forall₂ (fun segment steps => SegmentText (trim segment) steps)
      segments parts) :
    ∃ c ∈ chars, isBlank c = false := by
  rcases blank_or_given chars with hblank | hgiven
  · have hpoint : '.' ∉ chars := fun hmem => absurd (hblank '.' hmem) (by decide)
    obtain rfl : [chars] = segments := by
      rw [← splitAt_eq_iff.mpr hpieces, splitAt_of_notMem hpoint]
    cases hparts with
    | cons hsegment _ =>
        rw [trim_eq_nil_iff.mpr hblank] at hsegment
        exact absurd rfl hsegment.ne_nil
  · exact hgiven

theorem isPath_written (h : segments ≠ []) :
    IsPath (written segments).toList (segments.flatMap Segment.steps) := by
  have hparts : List.Forall₂ (fun segment steps => SegmentText (trim segment) steps)
      (segments.map Segment.text) (segments.map Segment.steps) := by
    rw [List.forall₂_map_left_iff, List.forall₂_map_right_iff, List.forall₂_same]
    exact fun segment _ => segment.segmentText
  exact ⟨exists_not_blank_of_segments (pieces_written h) hparts, _, _, pieces_written h, hparts,
    List.flatMap_def⟩

theorem point_mem_written_iff (h : segments ≠ []) :
    '.' ∈ (written segments).toList ↔ 1 < segments.length := by
  rw [← one_lt_length_splitAt, splitAt_eq_iff.mpr (pieces_written h), List.length_map]

/-- The reader that cuts at offsets always has a result: a path just if the text is one in the
grammar, qualified just if there is a point in it, and otherwise the fault that the grammar gives to
the text.  What is written from segments is read to their steps. -/
theorem reads_exactly_the_grammar :
    (∀ source, scan? source = some (parse source) ∧
      (∀ path, parse source = .ok path ↔ path.source = source ∧
        IsPath source.toList path.steps ∧ path.qualified = decide ('.' ∈ source.toList)) ∧
      ∀ error, parse source = .error error ↔
        error.path = source ∧ HasFault source.toList error.fault) ∧
    ∀ segments, segments ≠ [] → parse (written segments) =
      .ok ⟨written segments, segments.flatMap Segment.steps, decide (1 < segments.length)⟩ := by
  refine ⟨fun source => ⟨scan?_eq source, fun _ => parse_eq_ok_iff, fun _ => parse_eq_error_iff⟩,
    fun segments h => parse_eq_ok_iff.mpr ⟨rfl, isPath_written h, ?_⟩⟩
  exact decide_eq_decide.mpr (point_mem_written_iff h).symm

theorem reads_exactly_the_grammar_marked :
    let cells : Segment := ⟨"cell s".toList, .marker, by simp [IsName], by decide, nofun, rfl⟩
    let row : Segment := ⟨"row".toList, .indices [1, 2], by simp [IsName], by decide, by decide,
      by rw [Behind.text_of_lt_ten (by decide)]; rfl⟩
    [row, cells] ≠ [] ∧ parse (written [row, cells]) = .ok ⟨"row[1][2].cell s[]",
      [.field "row", .index 1, .index 2, .item "cell s"], true⟩ ∧
      HasFault "a[ +1 ][].b[".toList .misplacedMarker := by
  intro cells row
  have hwritten : written [row, cells] = "row[1][2].cell s[]" := by
    simp only [written, Segment.text, List.map_cons, List.map_nil, row,
      Behind.text_of_lt_ten (show ∀ position ∈ [1, 2], position < 10 by decide)]
    rfl
  have hread := reads_exactly_the_grammar.2 [row, cells] (List.cons_ne_nil _ _)
  rw [hwritten] at hread ⊢
  refine ⟨List.cons_ne_nil _ _, hread, ?_⟩
  exact (((reads_exactly_the_grammar.1 "a[ +1 ][].b[").2.2 ⟨_, .misplacedMarker⟩).mp rfl).2

end DocTemplate.DataPath

import DocTemplate.Data.Path
import DocTemplate.Proofs.Text.Scan
import Mathlib.Data.Nat.PSub

/-!
# Reading by offsets

A text is stored as bytes, and a reader that goes over it once cuts it at byte offsets.  A cut that
is beyond the end or inside of a character has no result, and neither has a loop that needs more
rounds than it is given.  On every text the reader of data paths has a result, the one of the paths.
-/

namespace DocTemplate

open DocTemplate.Text

namespace Text

/-! ## Offsets -/

def byteSize : List Char → Nat
  | [] => 0
  | c :: rest => c.utf8Size + byteSize rest

def offset? (wanted : Char) : List Char → Option Nat
  | [] => none
  | c :: rest => if c = wanted then some 0 else (offset? wanted rest).map (c.utf8Size + ·)

def cutAtOffset? : Nat → List Char → Option (List Char × List Char)
  | 0, text => some ([], text)
  | _ + 1, [] => none
  | offset + 1, c :: rest => do
      let inside ← (offset + 1).psub c.utf8Size
      let (front, back) ← cutAtOffset? inside rest
      return (c :: front, back)

def slice? (first last : Nat) (text : List Char) : Option (List Char) := do
  let size ← last.psub first
  let (_, rest) ← cutAtOffset? first text
  let (slice, _) ← cutAtOffset? size rest
  return slice

variable {c : Char}

theorem offset?_eq_none_iff {text : List Char} : offset? c text = none ↔ c ∉ text := by
  induction text with
  | nil => simp [offset?]
  | cons d rest ih =>
      rw [offset?]
      split
      · next heq => simp [heq]
      · next hne => simp [ih, Ne.symm hne]

theorem offset?_append {front : List Char} (h : c ∉ front) (back : List Char) :
    offset? c (front ++ c :: back) = some (byteSize front) := by
  induction front with
  | nil => simp [offset?, byteSize]
  | cons d front ih =>
      obtain ⟨hd, hfront⟩ := List.ne_and_not_mem_of_not_mem_cons h
      rw [List.cons_append, offset?, if_neg (Ne.symm hd), ih hfront]
      rfl

theorem cutAtOffset?_append (front back : List Char) :
    cutAtOffset? (byteSize front) (front ++ back) = some (front, back) := by
  induction front with
  | nil => rw [byteSize, cutAtOffset?, List.nil_append]
  | cons c front ih =>
      have hpos := c.utf8Size_pos
      have hinside : (c.utf8Size + byteSize front).psub c.utf8Size = some (byteSize front) :=
        Nat.psub_eq_some.mpr (Nat.add_comm ..)
      obtain ⟨offset, hoffset⟩ : ∃ offset, c.utf8Size + byteSize front = offset + 1 :=
        ⟨c.utf8Size + byteSize front - 1, by omega⟩
      rw [byteSize, hoffset, List.cons_append, cutAtOffset?, ← hoffset, hinside]
      simp [ih]

private theorem byteSize_append (front back : List Char) :
    byteSize (front ++ back) = byteSize front + byteSize back := by
  induction front with
  | nil => simp [byteSize]
  | cons c front ih => rw [List.cons_append, byteSize, byteSize, ih, Nat.add_assoc]

private theorem slice?_append (front slice back : List Char) :
    slice? (byteSize front) (byteSize front + byteSize slice) (front ++ (slice ++ back)) =
      some slice := by
  have hsize : (byteSize front + byteSize slice).psub (byteSize front) = some (byteSize slice) :=
    Nat.psub_eq_some.mpr (Nat.add_comm ..)
  simp [slice?, hsize, cutAtOffset?_append]

end Text

namespace DataPath

/-! ## Brackets -/

def readBrackets (brackets : List Char) : Except DataPathFault (List DataStep) :=
  readIndexPieces (splitAt ']' brackets)

variable {c : Char} {index rest after : List Char}

theorem readBrackets_unclosed (h : ']' ∉ c :: rest) :
    readBrackets (c :: rest) = .error .unterminatedBracket := by
  rw [readBrackets, splitAt_of_notMem h]
  rfl

theorem readBrackets_closed (h : ']' ∉ index) (after : List Char) :
    readBrackets ('[' :: index ++ ']' :: after) =
      (readIndexPiece ('[' :: index)).bind fun step => (readBrackets after).map (step :: ·) := by
  have hopened : ']' ∉ '[' :: index := List.not_mem_cons_of_ne_of_not_mem (by decide) h
  obtain ⟨piece, pieces, hafter⟩ := List.exists_cons_of_ne_nil (splitAt_ne_nil ']' after)
  rw [readBrackets, splitAt_append hopened, readBrackets, hafter]
  cases hpiece : readIndexPiece ('[' :: index) with
  | error fault => simp [readIndexPieces, hpiece, bind, Except.bind]
  | ok step =>
      cases hpieces : readIndexPieces (piece :: pieces) <;>
        simp [readIndexPieces, hpiece, hpieces, bind, Except.bind, pure, Except.pure, Except.map]

theorem readBrackets_not_opened (h : c ≠ '[') (rest : List Char) :
    readBrackets (c :: rest) = .error .unterminatedBracket := by
  have hpiece (piece : List Char) : readIndexPiece (c :: piece) = .error .unterminatedBracket := by
    simp [readIndexPiece, h]
  obtain ⟨piece, pieces, hrest⟩ := List.exists_cons_of_ne_nil (splitAt_ne_nil ']' rest)
  rw [readBrackets, splitAt, hrest]
  split
  · rfl
  · cases pieces with
    | nil => rfl
    | cons next pieces => simp [readIndexPieces, hpiece, bind, Except.bind]

/-! ## Reading -/

def scanBrackets? : Nat → List Char → Option (Except DataPathFault (List DataStep))
  | _, [] => some (.ok [])
  | 0, _ :: _ => none
  | rounds + 1, c :: rest =>
      match offset? ']' (c :: rest) with
      | none => some (.error .unterminatedBracket)
      | some close => do
          let index ← slice? 1 close (c :: rest)
          if index.isEmpty then return .error .misplacedMarker
          else
            match readIndex? (trim index) with
            | none => return .error (.invalidIndex (String.ofList index))
            | some position => do
                let (_, after) ← cutAtOffset? (close + 1) (c :: rest)
                if after.head?.all (· == '[') then
                  return (← scanBrackets? rounds after).map (.index position :: ·)
                else return .error .unterminatedBracket

/-- The name and the brackets behind it. -/
def cutName? (segment : List Char) : Option (List Char × List Char) :=
  match offset? '[' segment with
  | some opening => cutAtOffset? opening segment
  | none => some (segment, [])

def scanSegment? (segment : List Char) : Option (Except DataPathFault (List DataStep)) := do
  let (name, brackets) ← cutName? segment
  if name.isEmpty then return .error .emptySegment
  else if brackets = ['[', ']'] then return .ok [.item (String.ofList name)]
  else return (← scanBrackets? segment.length brackets).map (.field (String.ofList name) :: ·)

def scanSegments? : List (List Char) → Option (Except DataPathFault (List DataStep))
  | [] => some (.ok [])
  | segment :: rest => do
      match ← scanSegment? (trim segment) with
      | .error fault => return .error fault
      | .ok steps => return (← scanSegments? rest).map (steps ++ ·)

/-- A data path that is read by offsets, with as many rounds for a segment as it has characters. -/
def scan? (source : String) : Option (Except DataPathError DataPath) :=
  if (trim source.toList).isEmpty then some (.error ⟨source, .empty⟩)
  else do
    let segments := splitAt '.' source.toList
    match ← scanSegments? segments with
    | .error fault => return .error ⟨source, fault⟩
    | .ok steps => return .ok ⟨source, steps, decide (1 < segments.length)⟩

private theorem scanBrackets?_eq {rounds : Nat} {brackets : List Char}
    (hopened : ∀ c ∈ brackets.head?, c = '[') (hrounds : brackets.length ≤ rounds) :
    scanBrackets? rounds brackets = some (readBrackets brackets) := by
  induction rounds generalizing brackets with
  | zero =>
      obtain rfl := List.length_eq_zero_iff.mp (Nat.le_zero.mp hrounds)
      rfl
  | succ rounds ih =>
      cases brackets with
      | nil => rfl
      | cons c rest =>
          obtain rfl : c = '[' := hopened c rfl
          by_cases hclosed : ']' ∈ rest
          · obtain ⟨index, after, rfl, hindex⟩ := List.eq_append_cons_of_mem hclosed
            have hplain : ']' ∉ '[' :: index :=
              List.not_mem_cons_of_ne_of_not_mem (by decide) hindex
            have hoffset : offset? ']' ('[' :: (index ++ ']' :: after)) =
                some (byteSize ('[' :: index)) := offset?_append hplain after
            have hslice : slice? 1 (byteSize ('[' :: index)) ('[' :: (index ++ ']' :: after)) =
                some index := slice?_append ['['] index (']' :: after)
            have hcut : cutAtOffset? (byteSize ('[' :: index) + 1)
                ('[' :: (index ++ ']' :: after)) = some ('[' :: index ++ [']'], after) := by
              have hcut := cutAtOffset?_append ('[' :: index ++ [']']) after
              rwa [byteSize_append, List.append_assoc] at hcut
            rw [scanBrackets?, hoffset, ← List.cons_append, readBrackets_closed hindex,
              readIndexPiece]
            simp only [List.cons_append, hslice, hcut, Option.bind_eq_bind, Option.bind_some]
            split
            · rfl
            · cases readIndex? (trim index) with
              | none => rfl
              | some position =>
                  cases after with
                  | nil => rw [ih (by simp) (Nat.zero_le _)]; rfl
                  | cons next after =>
                      by_cases hnext : next = '['
                      · have hlength : (next :: after).length ≤ rounds := by
                          simp only [List.length_cons, List.length_append] at hrounds ⊢
                          omega
                        rw [ih (by simpa using hnext) hlength]
                        simp [hnext]
                        rfl
                      · rw [readBrackets_not_opened hnext]
                        simp [hnext]
                        rfl
          · have hnone : ']' ∉ '[' :: rest :=
              List.not_mem_cons_of_ne_of_not_mem (by decide) hclosed
            rw [scanBrackets?, offset?_eq_none_iff.mpr hnone, readBrackets_unclosed hnone]

/-! ## Segments -/

variable {name brackets : List Char}

theorem exists_name_brackets (segment : List Char) :
    ∃ name brackets, segment = name ++ brackets ∧ '[' ∉ name ∧ ∀ c ∈ brackets.head?, c = '[' := by
  by_cases hopening : '[' ∈ segment
  · obtain ⟨name, rest, hsegment, hname⟩ := List.eq_append_cons_of_mem hopening
    exact ⟨name, '[' :: rest, hsegment, hname, by simp⟩
  · exact ⟨segment, [], (List.append_nil segment).symm, hopening, by simp⟩

theorem readSegment_append (hname : '[' ∉ name) (hopened : ∀ c ∈ brackets.head?, c = '[') :
    readSegment (name ++ brackets) =
      if name.isEmpty then .error .emptySegment
      else if brackets = ['[', ']'] then .ok [.item (String.ofList name)]
      else (readBrackets brackets).map (.field (String.ofList name) :: ·) := by
  have hplain : ∀ c ∈ name, (c != '[') = true := fun c hc =>
    bne_iff_ne.mpr fun heq => hname (heq ▸ hc)
  have hfirst : brackets.takeWhile (· != '[') = [] ∧
      brackets.dropWhile (· != '[') = brackets := by
    cases brackets with
    | nil => exact ⟨rfl, rfl⟩
    | cons c rest =>
        obtain rfl : c = '[' := hopened c rfl
        exact ⟨rfl, rfl⟩
  rw [readSegment, List.takeWhile_append_of_pos hplain, List.dropWhile_append_of_pos hplain,
    hfirst.1, hfirst.2, List.append_nil]
  split
  · rfl
  · split
    · rfl
    · rw [readBrackets]
      cases readIndexPieces (splitAt ']' brackets) <;> rfl

private theorem cutName?_append (hname : '[' ∉ name) (hopened : ∀ c ∈ brackets.head?, c = '[') :
    cutName? (name ++ brackets) = some (name, brackets) := by
  cases brackets with
  | nil => rw [List.append_nil, cutName?, offset?_eq_none_iff.mpr hname]
  | cons c rest =>
      obtain rfl : c = '[' := hopened c rfl
      rw [cutName?, offset?_append hname]
      exact cutAtOffset?_append name ('[' :: rest)

private theorem scanSegment?_eq (segment : List Char) :
    scanSegment? segment = some (readSegment segment) := by
  obtain ⟨name, brackets, rfl, hname, hopened⟩ := exists_name_brackets segment
  have hlength : brackets.length ≤ (name ++ brackets).length := by simp
  rw [scanSegment?, cutName?_append hname hopened, readSegment_append hname hopened]
  simp only [Option.bind_eq_bind, Option.bind_some, scanBrackets?_eq hopened hlength]
  split
  · rfl
  · split <;> rfl

private theorem scanSegments?_eq (segments : List (List Char)) :
    scanSegments? segments = some (readSegments segments) := by
  induction segments with
  | nil => rfl
  | cons segment rest ih =>
      rw [scanSegments?, scanSegment?_eq, ih, readSegments]
      cases readSegment (trim segment) with
      | error fault => rfl
      | ok steps => cases readSegments rest <;> rfl

/-- No cut of the reader is out of range and its rounds are enough. -/
theorem scan?_eq (source : String) : scan? source = some (parse source) := by
  rw [scan?, parse, readChars]
  split
  · rfl
  · simp only [scanSegments?_eq, Option.bind_eq_bind, Option.bind_some]
    cases readSegments (splitAt '.' source.toList) <;> rfl

end DataPath

end DocTemplate

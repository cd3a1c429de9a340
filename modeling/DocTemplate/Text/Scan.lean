/-!
# Splitting and replacing

Splitting a text at a character, cutting it at the first occurrence of a pattern, and replacing
every occurrence of a pattern from left to right.
-/

namespace DocTemplate.Text

/-! ## Splitting at a character -/

/-- The pieces between separators; a text without one is a single piece. -/
def splitAt (separator : Char) : List Char → List (List Char)
  | [] => [[]]
  | c :: rest =>
      if c = separator then [] :: splitAt separator rest
      else
        match splitAt separator rest with
        | [] => [[c]]
        | piece :: pieces => (c :: piece) :: pieces

theorem splitAt_ne_nil (separator : Char) (text : List Char) :
    splitAt separator text ≠ [] := by
  cases text with
  | nil => simp [splitAt]
  | cons c rest =>
      rw [splitAt]
      split
      · simp
      · split <;> simp

/-! ## Cutting at a pattern -/

/-- What stands before and after the first occurrence of `pattern`. -/
def cutAt? (pattern : List Char) : List Char → Option (List Char × List Char)
  | [] => if pattern.isEmpty then some ([], []) else none
  | c :: rest =>
      match pattern.isPrefixOf? (c :: rest) with
      | some after => some ([], after)
      | none => (cutAt? pattern rest).map fun (before, after) => (c :: before, after)

def occursIn (pattern text : List Char) : Bool := (cutAt? pattern text).isSome

def enclosed? (lead tail text : List Char) : Option (List Char) :=
  (lead.isPrefixOf? text).bind fun rest =>
    (tail.reverse.isPrefixOf? rest.reverse).map List.reverse

/-! ## Replacing a pattern -/

/-- The first `skip` characters belong to an occurrence that is already replaced. -/
def replaceAfter (pattern replacement : List Char) : Nat → List Char → List Char
  | _, [] => []
  | skip + 1, _ :: rest => replaceAfter pattern replacement skip rest
  | 0, c :: rest =>
      if pattern.isPrefixOf (c :: rest) then
        replacement ++ replaceAfter pattern replacement (pattern.length - 1) rest
      else c :: replaceAfter pattern replacement 0 rest

def replace (pattern replacement text : List Char) : List Char :=
  replaceAfter pattern replacement 0 text

/-! ## Joining -/

def joinWith (separator : String) (pieces : List String) : String := separator.intercalate pieces

end DocTemplate.Text

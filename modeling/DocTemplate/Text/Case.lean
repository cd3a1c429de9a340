import DocTemplate.Text.CaseTable

/-!
# Upper and lower case

Full case mapping of Unicode.  The lower case of a capital sigma depends on its neighbours: at the
end of a word it is the final form.
-/

namespace DocTemplate.Text

/-! ## Properties -/

def inRanges (ranges : List (Nat × Nat)) (code : Nat) : Bool :=
  ranges.any fun (first, last) => first ≤ code && code ≤ last

def isCased (c : Char) : Bool := inRanges casedRanges c.toNat

def isCaseIgnorable (c : Char) : Bool := inRanges caseIgnorableRanges c.toNat

/-! ## Single characters -/

def CaseRun.covers (run : CaseRun) (code : Nat) : Bool :=
  run.first ≤ code && code ≤ run.last && (code - run.first) % run.step == 0

def mapThrough (runs : List CaseRun) (c : Char) : Char :=
  match runs.find? (·.covers c.toNat) with
  | some run => Char.ofNat ((c.toNat : Int) + run.offset).toNat
  | none => c

def upperChar (c : Char) : List Char :=
  match upperExpansions.lookup c.toNat with
  | some codes => codes.map Char.ofNat
  | none => [mapThrough upperRuns c]

/-- A dotted capital I keeps its dot as a combining character. -/
def lowerChar (c : Char) : List Char :=
  if c = 'İ' then ['i', '\u0307'] else [mapThrough lowerRuns c]

/-! ## Texts -/

def upper (text : List Char) : List Char := text.flatMap upperChar

/-- The first character that is not case-ignorable is cased. -/
def meetsCased (text : List Char) : Bool :=
  match text.dropWhile isCaseIgnorable with
  | [] => false
  | c :: _ => isCased c

/-- `before` is the text in front of the rest, nearest character first. -/
def lowerAfter (before : List Char) : List Char → List Char
  | [] => []
  | c :: rest =>
      let here :=
        if c = 'Σ' then (if meetsCased before && !meetsCased rest then ['ς'] else ['σ'])
        else lowerChar c
      here ++ lowerAfter (c :: before) rest

def lower (text : List Char) : List Char := lowerAfter [] text

end DocTemplate.Text

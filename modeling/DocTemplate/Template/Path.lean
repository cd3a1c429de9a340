import DocTemplate.Template.Element
import DocTemplate.Text.Scan
import DocTemplate.Text.Decimal

/-!
# Element paths

An element is addressed by the child indices that lead to it from the root.  The text of a path has
one segment `children[n]` per index, joined by points; when a path is read, a segment that is just
`children` is skipped, and the empty text is the root.
-/

namespace DocTemplate

open DocTemplate.Text

abbrev ElementPath := List Nat

/-! ## Faults -/

inductive ElementPathFault where
  | unexpectedSegment (segment : String)
  | notAnIndex (index : String)
  deriving DecidableEq, Repr

structure ElementPathError where
  path : String
  fault : ElementPathFault
  deriving DecidableEq, Repr

def ElementPathFault.reason : ElementPathFault → String
  | .unexpectedSegment segment => "unexpected segment '" ++ segment ++ "'"
  | .notAnIndex index => "'" ++ index ++ "' is not a child index"

def ElementPathError.message (error : ElementPathError) : String :=
  "Invalid element path '" ++ error.path ++ "': " ++ error.fault.reason

namespace ElementPath

def root : ElementPath := []

def isRoot (path : ElementPath) : Bool := path.isEmpty

def depth (path : ElementPath) : Nat := path.length

def child (path : ElementPath) (index : Nat) : ElementPath := path ++ [index]

def splitLast? : ElementPath → Option (ElementPath × Nat)
  | [] => none
  | [index] => some ([], index)
  | head :: rest => (splitLast? rest).map fun (parent, index) => (head :: parent, index)

/-- The path is `other` or lies inside it. -/
def startsWith (path other : ElementPath) : Bool := other.isPrefixOf path

/-! ## Text -/

def childrenWord : List Char := "children".toList

def segmentText (index : Nat) : List Char := childrenWord ++ '[' :: digits index ++ [']']

def chars : ElementPath → List Char
  | [] => []
  | [index] => segmentText index
  | index :: rest => segmentText index ++ '.' :: chars rest

def text (path : ElementPath) : String := String.ofList path.chars

def reportText (path : ElementPath) : String := if path.isRoot then "<root>" else path.text

/-! ## Reading -/

/-- The indices of one segment: none for a bare `children`, otherwise one. -/
def readSegment (segment : List Char) : Except ElementPathFault (List Nat) :=
  if segment = childrenWord then .ok []
  else
    match enclosed? (childrenWord ++ ['[']) [']'] segment with
    | none => .error (.unexpectedSegment (String.ofList segment))
    | some index =>
        match readIndex? index with
        | none => .error (.notAnIndex (String.ofList index))
        | some n => .ok [n]

def readSegments : List (List Char) → Except ElementPathFault ElementPath
  | [] => .ok []
  | segment :: rest => do
      let indices ← readSegment segment
      let path ← readSegments rest
      return indices ++ path

def readChars (chars : List Char) : Except ElementPathFault ElementPath :=
  if chars.isEmpty then .ok [] else readSegments (splitAt '.' chars)

def parse (text : String) : Except ElementPathError ElementPath :=
  (readChars text.toList).mapError fun fault => ⟨text, fault⟩

def toJson (path : ElementPath) : Json := .text path.text

def ofJson? (value : Json) : Option ElementPath := do
  (parse (← value.asText?)).toOption

end ElementPath

/-! ## Following a path -/

def Element.find? (element : Element) : ElementPath → Option Element
  | [] => some element
  | index :: rest => (element.children[index]?).bind (·.find? rest)

end DocTemplate

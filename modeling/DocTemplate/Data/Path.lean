import DocTemplate.Text.Blank
import DocTemplate.Text.Scan
import DocTemplate.Text.Decimal

/-!
# Data paths

A data path has segments between points.  A segment is a name, followed by nothing, by `[]`, which
marks the item of an array, or by one or more indices in brackets.  Blanks around a segment and
around an index do not matter.
-/

namespace DocTemplate

open DocTemplate.Text

inductive DataStep where
  | field (name : String)
  | index (position : Nat)
  | item (name : String)
  deriving DecidableEq, Repr

def DataStep.name? : DataStep → Option String
  | .field name => some name
  | .index _ => none
  | .item name => some name

structure DataPath where
  source : String
  steps : List DataStep
  qualified : Bool
  deriving DecidableEq, Repr

/-! ## Faults -/

inductive DataPathFault where
  | empty
  | emptySegment
  | unterminatedBracket
  | invalidIndex (index : String)
  | misplacedMarker
  deriving DecidableEq, Repr

structure DataPathError where
  path : String
  fault : DataPathFault
  deriving DecidableEq, Repr

def DataPathError.message (error : DataPathError) : String :=
  match error.fault with
  | .empty => "Empty path"
  | .emptySegment => "Empty segment in path '" ++ error.path ++ "'"
  | .unterminatedBracket => "Unterminated bracket in path '" ++ error.path ++ "'"
  | .invalidIndex index => "Invalid index '" ++ index ++ "' in path '" ++ error.path ++ "'"
  | .misplacedMarker => "Array marker must end its segment in path '" ++ error.path ++ "'"

namespace DataPath

/-! ## Reading -/

def readIndexPiece : List Char → Except DataPathFault DataStep
  | '[' :: index =>
      if index.isEmpty then .error .misplacedMarker
      else
        match readIndex? (trim index) with
        | none => .error (.invalidIndex (String.ofList index))
        | some position => .ok (.index position)
  | _ => .error .unterminatedBracket

/-- The text behind a name, cut at its closing brackets; behind the last one nothing may follow. -/
def readIndexPieces : List (List Char) → Except DataPathFault (List DataStep)
  | [] => .ok []
  | [last] => if last.isEmpty then .ok [] else .error .unterminatedBracket
  | piece :: rest => do
      let step ← readIndexPiece piece
      let steps ← readIndexPieces rest
      return step :: steps

def readSegment (segment : List Char) : Except DataPathFault (List DataStep) := do
  let name := segment.takeWhile (· != '[')
  let brackets := segment.dropWhile (· != '[')
  if name.isEmpty then .error .emptySegment
  else if brackets = ['[', ']'] then return [.item (String.ofList name)]
  else
    let indices ← readIndexPieces (splitAt ']' brackets)
    return .field (String.ofList name) :: indices

def readSegments : List (List Char) → Except DataPathFault (List DataStep)
  | [] => .ok []
  | segment :: rest => do
      let steps ← readSegment (trim segment)
      let more ← readSegments rest
      return steps ++ more

def readChars (chars : List Char) : Except DataPathFault (List DataStep × Bool) :=
  if (trim chars).isEmpty then .error .empty
  else do
    let segments := splitAt '.' chars
    let steps ← readSegments segments
    return (steps, decide (1 < segments.length))

def parse (source : String) : Except DataPathError DataPath :=
  match readChars source.toList with
  | .error fault => .error ⟨source, fault⟩
  | .ok (steps, qualified) => .ok ⟨source, steps, qualified⟩

def head? (path : DataPath) : Option String := path.steps.head?.bind DataStep.name?

end DataPath

end DocTemplate

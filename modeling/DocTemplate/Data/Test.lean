import DocTemplate.Data.Lookup
import DocTemplate.Data.Value

/-!
# Tests

The expression of a condition is a bare data path, which tests for truth, or a comparison of a data
path with a literal.  An expression without a space is a bare path.  Otherwise it is split at the
first occurrence of the first comparison token, in the order of `Comparison.all`, that occurs in it
at all; what stands to the right is always a literal.
-/

namespace DocTemplate

open DocTemplate.Text

/-! ## Comparisons -/

inductive Comparison where
  | greaterOrEqual
  | lessOrEqual
  | equal
  | notEqual
  | greater
  | less
  deriving DecidableEq, Repr

namespace Comparison

/-- Longer tokens come first, so that `>` never matches inside `>=`. -/
def all : List Comparison := [.greaterOrEqual, .lessOrEqual, .equal, .notEqual, .greater, .less]

def token : Comparison → String
  | .greaterOrEqual => ">="
  | .lessOrEqual => "<="
  | .equal => "=="
  | .notEqual => "!="
  | .greater => ">"
  | .less => "<"

end Comparison

/-! ## Literals -/

inductive Literal where
  | number (value : Binary64)
  | bool (value : Bool)
  | text (value : String)
  deriving DecidableEq

namespace Literal

def unquoted (chars : List Char) : List Char :=
  match enclosed? ['\''] ['\''] chars with
  | some inner => inner
  | none => (enclosed? ['"'] ['"'] chars).getD chars

def ofChars (chars : List Char) : Literal :=
  match Binary64.readNumeral? chars with
  | some value => .number value
  | none =>
      if chars = "true".toList then .bool true
      else if chars = "false".toList then .bool false
      else .text (String.ofList (unquoted chars))

def parse (source : String) : Literal := ofChars source.toList

def toNumber? : Literal → Option Binary64
  | .number value => some value
  | .bool value => some (Json.truthNumber value)
  | .text value => Binary64.readNumeral? value.toList

end Literal

/-! ## Tests -/

inductive Test where
  | truth (path : DataPath)
  | compare (left : DataPath) (comparison : Comparison) (right : Literal)

inductive TestFault where
  | empty
  | noOperator
  | invalidOperand (cause : DataPathError)
  deriving DecidableEq, Repr

structure TestError where
  expression : String
  fault : TestFault
  deriving DecidableEq, Repr

def TestError.message (error : TestError) : String :=
  match error.fault with
  | .empty => "Empty condition expression"
  | .noOperator => "No comparison operator in '" ++ error.expression ++ "'"
  | .invalidOperand cause =>
      "Invalid left operand in '" ++ error.expression ++ "': " ++ cause.message

namespace Test

/-! ## Reading -/

/-- The comparison that splits a text, with what stands on either side of its token. -/
def splitComparison? (chars : List Char) : Option (Comparison × List Char × List Char) :=
  Comparison.all.findSome? fun comparison =>
    (cutAt? comparison.token.toList chars).map fun (left, right) => (comparison, left, right)

def readChars (chars : List Char) : Except TestFault Test :=
  if (trim chars).isEmpty then .error .empty
  else if !chars.contains ' ' then
    ((DataPath.parse (String.ofList chars)).map .truth).mapError .invalidOperand
  else
    match splitComparison? chars with
    | none => .error .noOperator
    | some (comparison, left, right) =>
        match DataPath.parse (String.ofList (trim left)) with
        | .error cause => .error (.invalidOperand cause)
        | .ok path => .ok (.compare path comparison (Literal.ofChars (trim right)))

def parse (expression : String) : Except TestError Test :=
  (readChars expression.toList).mapError fun fault => ⟨expression, fault⟩

end Test

/-! ## Evaluation -/

def numbersEqual : Option Binary64 → Option Binary64 → Bool
  | some l, some r => l.equals r
  | _, _ => false

/-- Missing and null equal nothing; a list or an object equals the text it is shown as. -/
def looselyEquals (left : Option Json) (right : Literal) : Bool :=
  match left.bind View.present with
  | none => false
  | some value =>
      match value, right with
      | .text l, .text r => l == r
      | .list _, .text r => value.displayText == r
      | .object _, .text r => value.displayText == r
      | _, _ => numbersEqual value.toNumber? right.toNumber?

/-- Texts are ordered by their characters, everything else as numbers. -/
def looselyCompared (left : Option Json) (right : Literal) : Option Ordering :=
  match left.bind View.present with
  | none => none
  | some value =>
      match value, right with
      | .text l, .text r => some (compare l r)
      | _, _ => do
          let l ← value.toNumber?
          let r ← right.toNumber?
          l.compare? r

def Comparison.holds (comparison : Comparison) (left : Option Json) (right : Literal) : Bool :=
  match comparison with
  | .equal => looselyEquals left right
  | .notEqual => !looselyEquals left right
  | .greater => looselyCompared left right == some .gt
  | .less => looselyCompared left right == some .lt
  | .greaterOrEqual =>
      looselyCompared left right == some .gt || looselyCompared left right == some .eq
  | .lessOrEqual =>
      looselyCompared left right == some .lt || looselyCompared left right == some .eq

namespace Test

def holds (test : Test) (view : View) (scope : Option Json) : Bool :=
  match test with
  | .truth path => ((path.lookup? view scope).map Json.isTrue).getD false
  | .compare left comparison right => comparison.holds (left.lookup? view scope) right

def evaluate (expression : String) (view : View) (scope : Option Json) : Bool :=
  match parse expression with
  | .ok test => test.holds view scope
  | .error _ => false

end Test

end DocTemplate

import DocTemplate.Data.Value
import DocTemplate.Display.Currency
import DocTemplate.Display.Date
import DocTemplate.Text.Case

/-!
# Formatters

How a bound value is shown: a formatter is written as a name and an optional argument behind a bar.
A value shown by an unknown formatter is shown as it is.
-/

namespace DocTemplate

open DocTemplate.Text

inductive Formatter where
  | brl
  | date (pattern : Option String)
  | upper
  | lower
  | round (places : Nat)
  | percent
  | unknown (name : String)
  deriving DecidableEq, Repr

inductive FormatFault where
  | notANumber
  | outOfRange
  deriving DecidableEq, Repr

structure FormatError where
  formatter : String
  value : String
  fault : FormatFault
  deriving DecidableEq, Repr

def FormatError.message (error : FormatError) : String :=
  match error.fault with
  | .notANumber =>
      "Formatter '" ++ error.formatter ++ "' expects a number, got '" ++ error.value ++ "'"
  | .outOfRange => "Formatter '" ++ error.formatter ++ "' cannot represent '" ++ error.value ++ "'"

namespace Formatter

/-! ## Reading -/

def defaultPattern : String := "DD/MM/YYYY"

def maxArgument : Nat := 100

/-- The trimmed text between the first bar and the next; blank counts as missing. -/
def argument? (pieces : List (List Char)) : Option (List Char) :=
  match pieces with
  | _ :: argument :: _ => if (trim argument).isEmpty then none else some (trim argument)
  | _ => none

def parse (spec : String) : Formatter :=
  let pieces := splitAt '|' spec.toList
  let argument := argument? pieces
  match String.ofList (trim (pieces.headD [])) with
  | "brl" => .brl
  | "date" => .date (argument.map String.ofList)
  | "upper" => .upper
  | "lower" => .lower
  | "round" => .round (min ((argument.bind readIndex?).getD 0) maxArgument)
  | "percent" => .percent
  | other => .unknown other

def name : Formatter → String
  | .brl => "brl"
  | .date _ => "date"
  | .upper => "upper"
  | .lower => "lower"
  | .round _ => "round"
  | .percent => "percent"
  | .unknown name => name

def isKnown : Formatter → Bool
  | .unknown _ => false
  | _ => true

/-! ## Showing a value -/

def fault (formatter : Formatter) (value : Json) (fault : FormatFault) : FormatError :=
  ⟨formatter.name, value.displayText, fault⟩

def numeric (formatter : Formatter) (value : Json) (text? : Binary64 → Option String) :
    Except FormatError String :=
  match value.toNumber? with
  | none => .error (formatter.fault value .notANumber)
  | some number =>
      match text? number with
      | none => .error (formatter.fault value .outOfRange)
      | some text => .ok text

def percentText? (number : Binary64) : Option String :=
  (Display.rounded? (number.mul (Binary64.ofNat 100)) 0).map fun text =>
    String.ofList (text ++ ['%'])

/-- A date without a pattern of its own takes `pattern`; what is no date shows nothing. -/
def apply (formatter : Formatter) (value : Json) (pattern : String) : Except FormatError String :=
  match formatter with
  | .brl => formatter.numeric value Display.currency?
  | .date own =>
      .ok (((Date.ofJson? value).map fun date => date.format (own.getD pattern)).getD "")
  | .upper => .ok (String.ofList (Text.upper value.displayText.toList))
  | .lower => .ok (String.ofList (Text.lower value.displayText.toList))
  | .round places =>
      formatter.numeric value fun number => (Display.rounded? number places).map String.ofList
  | .percent => formatter.numeric value percentText?
  | .unknown _ => .ok value.displayText

end Formatter

end DocTemplate

import DocTemplate.Json.Basic
import DocTemplate.Binary64.Shortest

/-!
# Writing JSON

Compact text and text indented by two spaces.  Fields are written in the order of the value.
Floating-point numbers have the fewest digits that read back: in positional notation with at least
one decimal from `0.00001` up to sixteen whole digits, with an exponent outside of that.
-/

namespace DocTemplate

open DocTemplate.Text

/-! ## Numbers -/

def Binary64.Decimal.pointPosition (d : Binary64.Decimal) : Int :=
  (digits d.coefficient).length + d.exponent

def Binary64.Decimal.hasPositionalForm (d : Binary64.Decimal) : Bool :=
  -5 < d.pointPosition && d.pointPosition ≤ 16

def Binary64.jsonText (x : Binary64) : List Char :=
  if x.isZero then x.signed ['0', '.', '0']
  else
    let d := x.shortest
    if d.hasPositionalForm then
      x.signed (if 0 ≤ d.exponent then d.positional ++ ['.', '0'] else d.positional)
    else x.signed d.scientific

def Number.jsonText : Number → String
  | .whole value => signedNumeral value
  | .float value => String.ofList value.jsonText

namespace Json

/-! ## Strings -/

def hexDigit (n : Nat) : Char := if n < 10 then Char.ofNat (48 + n) else Char.ofNat (87 + n)

def escapeChar (c : Char) : List Char :=
  if c = '"' then ['\\', '"']
  else if c = '\\' then ['\\', '\\']
  else if c = '\x08' then ['\\', 'b']
  else if c = '\x0c' then ['\\', 'f']
  else if c = '\n' then ['\\', 'n']
  else if c = '\r' then ['\\', 'r']
  else if c = '\t' then ['\\', 't']
  else if c.toNat < 32 then ['\\', 'u', '0', '0', hexDigit (c.toNat / 16), hexDigit (c.toNat % 16)]
  else [c]

def quoted (text : String) : String :=
  String.ofList ('"' :: text.toList.flatMap escapeChar ++ ['"'])

/-! ## Compact text -/

mutual

def compact : Json → String
  | .null => "null"
  | .bool true => "true"
  | .bool false => "false"
  | .number value => value.jsonText
  | .text value => quoted value
  | .list items => "[" ++ compactItems items ++ "]"
  | .object fields => "\x7b" ++ compactFields fields ++ "\x7d"

def compactItems : List Json → String
  | [] => ""
  | [item] => item.compact
  | item :: rest => item.compact ++ "," ++ compactItems rest

def compactFields : List (String × Json) → String
  | [] => ""
  | [(key, value)] => quoted key ++ ":" ++ value.compact
  | (key, value) :: rest => quoted key ++ ":" ++ value.compact ++ "," ++ compactFields rest

end

/-! ## Indented text -/

def newline (depth : Nat) : String := String.ofList ('\n' :: List.replicate (2 * depth) ' ')

mutual

def indented (depth : Nat) : Json → String
  | .list [] => "[]"
  | .list items => "[" ++ indentedItems (depth + 1) items ++ newline depth ++ "]"
  | .object [] => "\x7b\x7d"
  | .object fields => "\x7b" ++ indentedFields (depth + 1) fields ++ newline depth ++ "\x7d"
  | .null => "null"
  | .bool true => "true"
  | .bool false => "false"
  | .number value => value.jsonText
  | .text value => quoted value

def indentedItems (depth : Nat) : List Json → String
  | [] => ""
  | [item] => newline depth ++ indented depth item
  | item :: rest => newline depth ++ indented depth item ++ "," ++ indentedItems depth rest

def indentedFields (depth : Nat) : List (String × Json) → String
  | [] => ""
  | [(key, value)] => newline depth ++ quoted key ++ ": " ++ indented depth value
  | (key, value) :: rest =>
      newline depth ++ quoted key ++ ": " ++ indented depth value ++ "," ++
        indentedFields depth rest

end

def pretty (value : Json) : String := value.indented 0

end Json

end DocTemplate

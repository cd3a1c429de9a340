import DocTemplate.Json.Basic
import DocTemplate.Binary64.Arithmetic
import DocTemplate.Text.Decimal

/-!
# Tokens of a JSON text

Strict JSON: no comments, no byte order mark, no control characters inside strings.

A numeral without point and exponent that fits 64 bits is a whole number.  Of every other numeral
the leading digits that fit 64 bits form a significand, which is scaled by one power of ten; a
number too large to be finite is refused.
-/

namespace DocTemplate.Json

open DocTemplate.Text

inductive Token where
  | openList
  | closeList
  | openObject
  | closeObject
  | comma
  | colon
  | null
  | bool (value : Bool)
  | number (value : Number)
  | text (value : String)
  deriving DecidableEq

/-! ## Numerals -/

def wordBound : Nat := 0x10000000000000000

structure Significand where
  value : Nat
  exponent : Int
  /-- A digit did not fit, so no later digit of the same part is taken. -/
  full : Bool

def Significand.fits (s : Significand) (c : Char) : Bool :=
  !s.full && 10 * s.value + digitValue c < wordBound

def Significand.wholeDigit (s : Significand) (c : Char) : Significand :=
  if s.fits c then { s with value := 10 * s.value + digitValue c }
  else { s with exponent := s.exponent + 1, full := true }

def Significand.fractionDigit (s : Significand) (c : Char) : Significand :=
  if s.fits c then { s with value := 10 * s.value + digitValue c, exponent := s.exponent - 1 }
  else { s with full := true }

/-- One power of ten is multiplied or divided by; below `10 ^ -308` several steps are taken. -/
def scaleBy : Nat → Binary64 → Int → Option Binary64
  | 0, x, _ => some x
  | steps + 1, x, exponent =>
      if 308 < exponent.natAbs then
        if x.isZero then some x
        else if 0 ≤ exponent then none
        else scaleBy steps (x.div (Binary64.powerOfTen 308)) (exponent + 308)
      else if 0 ≤ exponent then
        let product := x.mul (Binary64.powerOfTen exponent.toNat)
        if product.isFinite then some product else none
      else some (x.div (Binary64.powerOfTen (-exponent).toNat))

def Significand.toFloat? (s : Significand) (negative : Bool) (exponent : Int) : Option Binary64 :=
  (scaleBy 4 (Binary64.ofNat s.value) (s.exponent + exponent)).map fun x =>
    { x with negative := negative }

structure Numeral where
  negative : Bool
  whole : List Char
  fraction : Option (List Char)
  exponent : Option Int

def Numeral.significand (n : Numeral) : Significand :=
  let whole := n.whole.foldl Significand.wholeDigit ⟨0, 0, false⟩
  match n.fraction with
  | none => whole
  | some digits => digits.foldl Significand.fractionDigit { whole with full := false }

def Numeral.toFloat? (n : Numeral) : Option Number :=
  (n.significand.toFloat? n.negative (n.exponent.getD 0)).map .float

/-- Minus zero and what does not fit 64 bits become floating-point numbers. -/
def Numeral.toNumber? (n : Numeral) : Option Number :=
  if n.fraction.isSome || n.exponent.isSome then n.toFloat?
  else
    let value := valueOf 0 n.whole
    if n.negative then
      if value ≠ 0 ∧ 2 * value ≤ wordBound then some (.whole (-(value : Int))) else n.toFloat?
    else if value < wordBound then some (.whole value) else n.toFloat?

def spanDigits (text : List Char) : List Char × List Char := text.span isDigit

def readFraction? (text : List Char) : Option (Option (List Char) × List Char) :=
  match text with
  | '.' :: rest =>
      let (digits, rest) := spanDigits rest
      if digits.isEmpty then none else some (some digits, rest)
  | _ => some (none, text)

def readExponentDigits? (negative : Bool) (text : List Char) : Option (Option Int × List Char) :=
  let (digits, rest) := spanDigits text
  if digits.isEmpty then none
  else
    let size : Int := valueOf 0 digits
    some (some (if negative then -size else size), rest)

def readExponent? (text : List Char) : Option (Option Int × List Char) :=
  match text with
  | c :: rest =>
      if c = 'e' ∨ c = 'E' then
        match rest with
        | '-' :: rest => readExponentDigits? true rest
        | '+' :: rest => readExponentDigits? false rest
        | _ => readExponentDigits? false rest
      else some (none, text)
  | [] => some (none, text)

/-- A zero in front of another digit ends the numeral, and no token may follow it directly. -/
def readWhole? (text : List Char) : Option (List Char × List Char) :=
  match text with
  | '0' :: rest => some (['0'], rest)
  | _ =>
      let (digits, rest) := spanDigits text
      if digits.isEmpty then none else some (digits, rest)

def readNumber? (negative : Bool) (text : List Char) : Option (Number × List Char) := do
  let (whole, rest) ← readWhole? text
  let (fraction, rest) ← readFraction? rest
  let (exponent, rest) ← readExponent? rest
  let number ← Numeral.toNumber? ⟨negative, whole, fraction, exponent⟩
  return (number, rest)

/-! ## Strings -/

def hexValue? (c : Char) : Option Nat :=
  let code := c.toNat
  if 48 ≤ code ∧ code ≤ 57 then some (code - 48)
  else if 97 ≤ code ∧ code ≤ 102 then some (code - 87)
  else if 65 ≤ code ∧ code ≤ 70 then some (code - 55)
  else none

def readUnit? : List Char → Option (Nat × List Char)
  | a :: b :: c :: d :: rest => do
      let a ← hexValue? a
      let b ← hexValue? b
      let c ← hexValue? c
      let d ← hexValue? d
      return (((a * 16 + b) * 16 + c) * 16 + d, rest)
  | _ => none

def isHighSurrogate (code : Nat) : Bool := 0xD800 ≤ code && code ≤ 0xDBFF

def isLowSurrogate (code : Nat) : Bool := 0xDC00 ≤ code && code ≤ 0xDFFF

/-- A high surrogate must be followed by the escape of a low one. -/
def readUnicodeEscape? (text : List Char) : Option (Char × List Char) := do
  let (high, rest) ← readUnit? text
  if isLowSurrogate high then none
  else if isHighSurrogate high then
    match rest with
    | '\\' :: 'u' :: rest =>
        let (low, rest) ← readUnit? rest
        if isLowSurrogate low then
          return (Char.ofNat (0x10000 + (high - 0xD800) * 0x400 + (low - 0xDC00)), rest)
        else none
    | _ => none
  else return (Char.ofNat high, rest)

def readEscape? : List Char → Option (Char × List Char)
  | '"' :: rest => some ('"', rest)
  | '\\' :: rest => some ('\\', rest)
  | '/' :: rest => some ('/', rest)
  | 'b' :: rest => some ('\x08', rest)
  | 'f' :: rest => some ('\x0c', rest)
  | 'n' :: rest => some ('\n', rest)
  | 'r' :: rest => some ('\r', rest)
  | 't' :: rest => some ('\t', rest)
  | 'u' :: rest => readUnicodeEscape? rest
  | _ => none

def readString? : Nat → List Char → Option (List Char × List Char)
  | 0, _ => none
  | _, [] => none
  | steps + 1, c :: rest =>
      if c = '"' then some ([], rest)
      else if c = '\\' then
        match readEscape? rest with
        | some (escaped, rest) =>
            (readString? steps rest).map fun (chars, rest) => (escaped :: chars, rest)
        | none => none
      else if c.toNat < 32 then none
      else (readString? steps rest).map fun (chars, rest) => (c :: chars, rest)

/-! ## Tokens -/

def isSpace (c : Char) : Bool := c == ' ' || c == '\n' || c == '\t' || c == '\r'

def readWord? (text : List Char) : Option (Token × List Char) :=
  match "null".toList.isPrefixOf? text with
  | some rest => some (.null, rest)
  | none =>
      match "true".toList.isPrefixOf? text with
      | some rest => some (.bool true, rest)
      | none => ("false".toList.isPrefixOf? text).map fun rest => (.bool false, rest)

def readToken? (bound : Nat) (c : Char) (rest : List Char) : Option (Token × List Char) :=
  if c = '[' then some (.openList, rest)
  else if c = ']' then some (.closeList, rest)
  else if c = '\x7b' then some (.openObject, rest)
  else if c = '\x7d' then some (.closeObject, rest)
  else if c = ',' then some (.comma, rest)
  else if c = ':' then some (.colon, rest)
  else if c = '"' then
    (readString? bound rest).map fun (chars, rest) =>
      (.text (String.ofList chars), rest)
  else if c = '-' then (readNumber? true rest).map fun (n, rest) => (.number n, rest)
  else if isDigit c then (readNumber? false (c :: rest)).map fun (n, rest) => (.number n, rest)
  else readWord? (c :: rest)

/-- Every step takes at least one character, so the length of the text is enough steps. -/
def tokensIn? : Nat → List Char → Option (List Token)
  | _, [] => some []
  | 0, _ => none
  | steps + 1, c :: rest =>
      if isSpace c then tokensIn? steps rest
      else
        match readToken? steps c rest with
        | some (token, rest) => (tokensIn? steps rest).map (token :: ·)
        | none => none

def tokens? (text : List Char) : Option (List Token) := tokensIn? text.length text

end DocTemplate.Json

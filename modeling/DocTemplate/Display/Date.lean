import DocTemplate.Json.Basic
import DocTemplate.Binary64.Arithmetic
import DocTemplate.Text.Blank
import DocTemplate.Text.Decimal
import DocTemplate.Text.Scan

/-!
# Dates

Calendar dates of the proleptic Gregorian calendar.  A date is read from a text in one of three
forms, a moment with an offset from UTC, a bare date, or a moment without offset, or from a count of
milliseconds since the start of 1970.  It is written by a pattern in which `YYYY`, `MM` and `DD` stand
for its parts.
-/

namespace DocTemplate

open DocTemplate.Text

structure Date where
  year : Int
  month : Nat
  day : Nat
  deriving DecidableEq, Repr

namespace Date

/-! ## Calendar -/

def isLeapYear (year : Int) : Bool := year % 4 == 0 && (year % 100 != 0 || year % 400 == 0)

def daysInMonth (year : Int) (month : Nat) : Nat :=
  if month = 2 then (if isLeapYear year then 29 else 28)
  else if month = 4 ∨ month = 6 ∨ month = 9 ∨ month = 11 then 30
  else 31

def firstYear : Int := -262143

def lastYear : Int := 262142

def ofParts? (year : Int) (month day : Nat) : Option Date :=
  if firstYear ≤ year ∧ year ≤ lastYear ∧ 1 ≤ month ∧ month ≤ 12 ∧ 1 ≤ day ∧
      day ≤ daysInMonth year month then
    some ⟨year, month, day⟩
  else none

/-- Years are taken to begin in March, so that a leap day is the last day of its year. -/
def ofDays? (days : Int) : Option Date :=
  let shifted := days + 719468
  let era := shifted / 146097
  let dayOfEra := (shifted % 146097).toNat
  let yearOfEra := (dayOfEra - dayOfEra / 1460 + dayOfEra / 36524 - dayOfEra / 146096) / 365
  let dayOfYear := dayOfEra - (365 * yearOfEra + yearOfEra / 4 - yearOfEra / 100)
  let marchMonth := (5 * dayOfYear + 2) / 153
  let day := dayOfYear - (153 * marchMonth + 2) / 5 + 1
  let month := if marchMonth < 10 then marchMonth + 3 else marchMonth - 9
  let year := era * 400 + yearOfEra + (if month ≤ 2 then 1 else 0)
  ofParts? year month day

def ofMilliseconds? (count : Int) : Option Date := ofDays? (count / 86400000)

/-! ## Parts of a text -/

def readUpTo? (most : Nat) (text : List Char) : Option (Nat × List Char) :=
  let digits := (text.take most).takeWhile isDigit
  if digits.isEmpty then none else some (valueOf 0 digits, text.drop digits.length)

def readExactly? (count : Nat) (text : List Char) : Option (Nat × List Char) :=
  let digits := (text.take count).takeWhile isDigit
  if digits.length = count then some (valueOf 0 digits, text.drop count) else none

def readMark? (mark : Char) : List Char → Option (List Char)
  | [] => none
  | c :: rest => if c = mark then some rest else none

def skipFraction? : List Char → Option (List Char)
  | '.' :: rest =>
      if (rest.takeWhile isDigit).isEmpty then none else some (rest.dropWhile isDigit)
  | text => some text

/-- The last minute of a day may have a leap second, and so may any other. -/
def isTimeOfDay (hour minute second : Nat) : Bool := hour ≤ 23 && minute ≤ 59 && second ≤ 60

/-! ## A moment with an offset -/

def readOffsetSign? : List Char → Option (List Char)
  | '+' :: rest => some rest
  | '-' :: rest => some rest
  | '−' :: rest => some rest
  | _ => none

/-- `Z`, or hours and minutes with a sign; the date is the local one, so the value is not used. -/
def skipOffset? (text : List Char) : Option (List Char) :=
  match text with
  | 'Z' :: rest => some rest
  | 'z' :: rest => some rest
  | _ => do
      let rest ← readOffsetSign? text
      let (hours, rest) ← readExactly? 2 rest
      let rest ← readMark? ':' rest
      let (minutes, rest) ← readExactly? 2 rest
      if hours ≤ 23 ∧ minutes ≤ 59 then some rest else none

def isMomentSeparator (c : Char) : Bool := c == 'T' || c == 't' || c == ' '

def readMomentWithOffset? (text : List Char) : Option Date := do
  let (year, rest) ← readExactly? 4 text
  let rest ← readMark? '-' rest
  let (month, rest) ← readExactly? 2 rest
  let rest ← readMark? '-' rest
  let (day, rest) ← readExactly? 2 rest
  let separator ← rest.head?
  let (hour, rest) ← readExactly? 2 (rest.drop 1)
  let rest ← readMark? ':' rest
  let (minute, rest) ← readExactly? 2 rest
  let rest ← readMark? ':' rest
  let (second, rest) ← readExactly? 2 rest
  let rest ← skipFraction? rest
  let rest ← skipOffset? rest
  if isMomentSeparator separator && isTimeOfDay hour minute second && rest.isEmpty then
    ofParts? year month day
  else none

/-! ## Forms with numbers of any width -/

def readYear? (text : List Char) : Option (Int × List Char) :=
  match trimStart text with
  | '-' :: rest => (readUpTo? rest.length rest).map fun (year, rest) => (-(year : Int), rest)
  | '+' :: rest => (readUpTo? rest.length rest).map fun (year, rest) => ((year : Int), rest)
  | unsigned => (readUpTo? 4 unsigned).map fun (year, rest) => ((year : Int), rest)

def readPart? (text : List Char) : Option (Nat × List Char) := readUpTo? 2 (trimStart text)

def readDatePart? (text : List Char) : Option (Option Date × List Char) := do
  let (year, rest) ← readYear? text
  let rest ← readMark? '-' rest
  let (month, rest) ← readPart? rest
  let rest ← readMark? '-' rest
  let (day, rest) ← readPart? rest
  return (ofParts? year month day, rest)

def readBareDate? (text : List Char) : Option Date := do
  let (date, rest) ← readDatePart? text
  if rest.isEmpty then date else none

def readLocalMoment? (text : List Char) : Option Date := do
  let (date, rest) ← readDatePart? text
  let rest ← readMark? 'T' rest
  let (hour, rest) ← readPart? rest
  let rest ← readMark? ':' rest
  let (minute, rest) ← readPart? rest
  let rest ← readMark? ':' rest
  let (second, rest) ← readPart? rest
  let rest ← skipFraction? rest
  if isTimeOfDay hour minute second && rest.isEmpty then date else none

def readChars? (text : List Char) : Option Date :=
  let text := trim text
  (readMomentWithOffset? text).or ((readBareDate? text).or (readLocalMoment? text))

def ofJson? : Json → Option Date
  | .text text => readChars? text.toList
  | .number (.whole count) => ofMilliseconds? count
  | .number (.float count) => if count.isFinite then ofMilliseconds? count.truncate else none
  | _ => none

/-! ## Patterns -/

def yearChars (year : Int) : List Char :=
  if year < 0 then '-' :: padded 3 year.natAbs else padded 4 year.natAbs

def formatChars (date : Date) (pattern : List Char) : List Char :=
  replace "DD".toList (padded 2 date.day)
    (replace "MM".toList (padded 2 date.month)
      (replace "YYYY".toList (yearChars date.year) pattern))

def format (date : Date) (pattern : String) : String :=
  String.ofList (date.formatChars pattern.toList)

end Date

end DocTemplate

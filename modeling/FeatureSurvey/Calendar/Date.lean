import FeatureSurvey.Error
import FeatureSurvey.Text.Blank

/-!
# `Calendar/Date.lean` — calendar dates

Dates of the Gregorian calendar, carried on into the past before its introduction, with a year
zero. They are written as year, month and day between hyphens. A year of up to four digits stands
with four; any other year has a sign. When a date is read, an unsigned year has at most four
digits, month and day have at most two, and blanks before a number are passed over.

The calendar reaches from the year `-262143` to the year `262142`.
-/

set_option autoImplicit false

namespace FeatureSurvey

structure Date where
  year : Int
  month : Nat
  day : Nat
  deriving DecidableEq, Repr

namespace Date

def firstYear : Int := -262143

def lastYear : Int := 262142

def isLeap (year : Int) : Bool := year % 4 == 0 && (year % 100 != 0 || year % 400 == 0)

def daysInMonth (year : Int) (month : Nat) : Nat :=
  if month == 2 then if isLeap year then 29 else 28
  else if month == 4 || month == 6 || month == 9 || month == 11 then 30
  else 31

/-- The date of these numbers, if the calendar has it. -/
def ofNumbers? (year : Int) (month day : Nat) : Option Date :=
  if firstYear ≤ year ∧ year ≤ lastYear ∧ 1 ≤ month ∧ month ≤ 12 ∧ 1 ≤ day ∧
      day ≤ daysInMonth year month then
    some ⟨year, month, day⟩
  else none

/-! ## Days since the beginning of 1970 -/

/-- The date of a day. Years are counted from March, so that the leap day is the last of its
year, and in cycles of 400 years. -/
def ofDays (days : Int) : Date :=
  -- From the first of March of the year zero.
  let shifted := days + 719468
  let era := shifted.fdiv 146097
  let dayOfEra := (shifted.fmod 146097).toNat
  let yearOfEra :=
    (dayOfEra - dayOfEra / 1460 + dayOfEra / 36524 - dayOfEra / 146096) / 365
  let dayOfYear := dayOfEra - (365 * yearOfEra + yearOfEra / 4 - yearOfEra / 100)
  let marchMonth := (5 * dayOfYear + 2) / 153
  let day := dayOfYear - (153 * marchMonth + 2) / 5 + 1
  let month := if marchMonth < 10 then marchMonth + 3 else marchMonth - 9
  let year := era * 400 + yearOfEra
  ⟨if month ≤ 2 then year + 1 else year, month, day⟩

def secondsPerDay : Int := 86400

/-- The date of a moment, given in seconds, if the calendar reaches it. -/
def ofSeconds? (seconds : Int) : Option Date :=
  let date := ofDays (seconds.fdiv secondsPerDay)
  if firstYear ≤ date.year ∧ date.year ≤ lastYear then some date else none

/-! ## Writing -/

/-- A number with zeros before it up to a width. -/
def padded (width n : Nat) : String :=
  let digits := Nat.toDigits 10 n
  String.ofList (List.replicate (width - digits.length) '0' ++ digits)

def yearText (year : Int) : String :=
  if 0 ≤ year ∧ year ≤ 9999 then padded 4 year.toNat
  else (if year < 0 then "-" else "+") ++ padded 4 year.natAbs

def format (d : Date) : String := s!"{yearText d.year}-{padded 2 d.month}-{padded 2 d.day}"

/-- Date and time of day of a moment. -/
def timestamp (seconds : Int) : String :=
  let time := (seconds.fmod secondsPerDay).toNat
  let date := ofDays (seconds.fdiv secondsPerDay)
  s!"{date.format}-{padded 2 (time / 3600)}:{padded 2 (time / 60 % 60)}:{padded 2 (time % 60)}"

/-! ## Reading -/

/-- Read up to `width` digits, at least one, of a number that a signed 64-bit word holds. -/
def number (width : Option Nat) (cs : List Char) : Except DateFault (Nat × List Char) :=
  let ds := (match width with
    | some width => cs.take width
    | none => cs).takeWhile Char.isDigit
  if cs.isEmpty then .error .tooShort
  else if ds.isEmpty then .error .invalid
  else
    let n := ds.foldl (fun n c => n * 10 + (c.toNat - '0'.toNat)) 0
    if n < 9223372036854775808 then .ok (n, cs.drop ds.length) else .error .outOfRange

def inRange (lo hi : Int) (n : Int) : Except DateFault Unit :=
  if lo ≤ n ∧ n ≤ hi then .ok () else .error .outOfRange

def readYear (cs : List Char) : Except DateFault (Int × List Char) := do
  let (year, rest) ←
    match Text.trimLeft cs with
    | '-' :: cs => (number none cs).map fun (n, rest) => (-(n : Int), rest)
    | '+' :: cs => (number none cs).map fun (n, rest) => ((n : Int), rest)
    | cs => (number (some 4) cs).map fun (n, rest) => ((n : Int), rest)
  inRange (-2147483648) 2147483647 year
  return (year, rest)

def readPart (most : Nat) (cs : List Char) : Except DateFault (Nat × List Char) := do
  let (n, rest) ← number (some 2) (Text.trimLeft cs)
  inRange 1 most n
  return (n, rest)

def hyphen : List Char → Except DateFault (List Char)
  | [] => .error .tooShort
  | '-' :: rest => .ok rest
  | _ => .error .invalid

/-- Read a date; the first fault from the left is the one reported. -/
def parse (text : String) : Except DateFault Date := do
  let (year, rest) ← readYear text.toList
  let (month, rest) ← readPart 12 (← hyphen rest)
  let (day, rest) ← readPart 31 (← hyphen rest)
  if !rest.isEmpty then throw .tooLong
  match ofNumbers? year month day with
  | some date => return date
  | none => throw .outOfRange

end Date

end FeatureSurvey

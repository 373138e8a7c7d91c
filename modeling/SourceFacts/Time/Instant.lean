import SourceFacts.Text.Pieces

namespace SourceFacts.Time

/-!
# Moments of universal time

Dates and moments, how moments are written, and how they are read.
-/

open Text

/-!
## The calendar

Dates of the proleptic Gregorian calendar and the days since the first of
January 1970, in both directions.
-/

/-- A date. -/
structure Date where
  year : Int
  month : Nat
  day : Nat
deriving Repr, DecidableEq, Inhabited

/-- Whether a year has 366 days. -/
def isLeapYear (year : Int) : Bool := year % 4 = 0 && (year % 100 ≠ 0 || year % 400 = 0)

/-- The number of days of a month. -/
def daysInMonth (year : Int) (month : Nat) : Nat :=
  if month = 2 then (if isLeapYear year then 29 else 28)
  else if month = 4 || month = 6 || month = 9 || month = 11 then 30
  else 31

namespace Date

/-- Whether there is such a day. -/
def isValid (date : Date) : Bool :=
  1 ≤ date.month && date.month ≤ 12 && 1 ≤ date.day &&
    date.day ≤ daysInMonth date.year date.month

/-- The days from the first of January 1970 to a date. Years begin in March for
this count, so that the leap day is the last one. -/
def toDays (date : Date) : Int :=
  let year := if date.month ≤ 2 then date.year - 1 else date.year
  let era := year / 400
  let yearOfEra := year - era * 400
  let month : Int := if date.month > 2 then date.month - 3 else date.month + 9
  let dayOfYear := (153 * month + 2) / 5 + date.day - 1
  let dayOfEra := yearOfEra * 365 + yearOfEra / 4 - yearOfEra / 100 + dayOfYear
  era * 146097 + dayOfEra - 719468

/-- The date a number of days after the first of January 1970. -/
def ofDays (days : Int) : Date :=
  let days := days + 719468
  let era := days / 146097
  let dayOfEra := days - era * 146097
  let yearOfEra := (dayOfEra - dayOfEra / 1460 + dayOfEra / 36524 - dayOfEra / 146096) / 365
  let dayOfYear := dayOfEra - (365 * yearOfEra + yearOfEra / 4 - yearOfEra / 100)
  let month := (5 * dayOfYear + 2) / 153
  let day := dayOfYear - (153 * month + 2) / 5 + 1
  let year := yearOfEra + era * 400
  if month < 10 then { year, month := (month + 3).toNat, day := day.toNat }
  else { year := year + 1, month := (month - 9).toNat, day := day.toNat }

end Date

/-- The first year of the calendar. -/
def firstYear : Int := -262143

/-- The last year of the calendar. -/
def lastYear : Int := 262142

/-!
## Instants

Moments of universal time to the nanosecond. A leap second is counted as the
continuation of the second before it, which then has more nanoseconds.
-/

/-- A moment, in whole seconds since the beginning of 1970 and nanoseconds. -/
structure Instant where
  seconds : Int := 0
  nanoseconds : Nat := 0
deriving Repr, DecidableEq, Inhabited

namespace Instant

/-- Whether one moment is before another. -/
def before (left right : Instant) : Bool :=
  left.seconds < right.seconds ||
    (left.seconds = right.seconds && left.nanoseconds < right.nanoseconds)

/-- The first second of the calendar. -/
def firstSecond : Int := Date.toDays { year := firstYear, month := 1, day := 1 } * 86400

/-- The last second of the calendar. -/
def lastSecond : Int := Date.toDays { year := lastYear + 1, month := 1, day := 1 } * 86400 - 1

/-- The last moment of the calendar. -/
def last : Instant := { seconds := lastSecond, nanoseconds := 999999999 }

/-- Whether a moment is in the calendar. -/
def inCalendar (moment : Instant) : Bool :=
  firstSecond ≤ moment.seconds && moment.seconds ≤ lastSecond

/-- The nanoseconds since the beginning of 1970. -/
def toNanoseconds (moment : Instant) : Int := moment.seconds * 1000000000 + moment.nanoseconds

/-- The moment a number of nanoseconds after the beginning of 1970. -/
def ofNanoseconds (count : Int) : Instant :=
  { seconds := count / 1000000000, nanoseconds := (count % 1000000000).toNat }

/-- The moment a number of seconds later, unless it is beyond the calendar. From
inside a leap second one arrives at the second that follows it. -/
def addSeconds? (moment : Instant) (count : Nat) : Option Instant :=
  let later : Instant :=
    if count = 0 then moment
    else
      { seconds := moment.seconds + count
        nanoseconds :=
          if 1000000000 ≤ moment.nanoseconds then moment.nanoseconds - 1000000000
          else moment.nanoseconds }
  if later.inCalendar then some later else none

end Instant

/-! ### Writing -/

/-- A number with at least a number of digits. -/
def padded (width value : Nat) : String :=
  let digits := toString value
  String.ofList (List.replicate (width - digits.length) '0') ++ digits

/-- A year: four digits, or a sign and at least four digits. -/
def yearText (year : Int) : String :=
  if 0 ≤ year ∧ year ≤ 9999 then padded 4 year.toNat
  else (if year < 0 then "-" else "+") ++ padded 4 year.natAbs

/-- A fraction of a second, in the fewest groups of three digits. -/
def fractionText (nanoseconds : Nat) : String :=
  if nanoseconds = 0 then ""
  else if nanoseconds % 1000000 = 0 then "." ++ padded 3 (nanoseconds / 1000000)
  else if nanoseconds % 1000 = 0 then "." ++ padded 6 (nanoseconds / 1000)
  else "." ++ padded 9 nanoseconds

/-- A moment as date and time of day. -/
def Instant.toText (moment : Instant) : String :=
  let date := Date.ofDays (moment.seconds / 86400)
  let second := (moment.seconds % 86400).toNat
  let isLeap := 1000000000 ≤ moment.nanoseconds
  let shownSecond := second % 60 + (if isLeap then 1 else 0)
  let fraction := if isLeap then moment.nanoseconds - 1000000000 else moment.nanoseconds
  yearText date.year ++ "-" ++ padded 2 date.month ++ "-" ++ padded 2 date.day ++ "T" ++
    padded 2 (second / 3600) ++ ":" ++ padded 2 (second / 60 % 60) ++ ":" ++
    padded 2 shownSecond ++ fractionText fraction ++ "Z"

/-!
## Reading instants

A moment is read from a date, a time of day and an offset from universal time.
Blanks may stand between the parts, leading zeros may be missing, and a second
may be the sixtieth, which is a leap second.
-/

/-- The value of a digit. -/
def digitValue (c : Char) : Nat := c.toNat - '0'.toNat

/-- The value of digits. -/
def numberOf (digits : List Char) : Nat :=
  digits.foldl (fun value c => value * 10 + digitValue c) 0

/-- A number of at least one and at most `limit` digits. -/
def readNumber (limit : Nat) (chars : List Char) : Option (Nat × List Char) :=
  let digits := (chars.take limit).takeWhile Char.isDigit
  if digits.isEmpty then none else some (numberOf digits, chars.drop digits.length)

/-- A number of two digits at most, after blanks. -/
def readPart (chars : List Char) : Option (Nat × List Char) := readNumber 2 (dropBlanks chars)

/-- A year: up to four digits, or any number of them after a sign. -/
def readYear (chars : List Char) : Option (Int × List Char) :=
  match dropBlanks chars with
  | '-' :: rest => (readNumber rest.length rest).map fun (year, rest) => (-(year : Int), rest)
  | '+' :: rest => (readNumber rest.length rest).map fun (year, rest) => ((year : Int), rest)
  | rest => (readNumber 4 rest).map fun (year, rest) => ((year : Int), rest)

/-- A character, after blanks. -/
def readMark (mark : Char) (chars : List Char) : Option (List Char) :=
  match dropBlanks chars with
  | c :: rest => if c = mark then some rest else none
  | [] => none

/-- Digits after a point as nanoseconds; those beyond the ninth do not count. -/
def readFraction : List Char → Option (Nat × List Char)
  | '.' :: rest => do
      let (value, after) ← readNumber 9 rest
      let read := rest.length - after.length
      return (value * Nat.pow 10 (9 - read), after.dropWhile Char.isDigit)
  | chars => some (0, chars)

/-- Two digits. -/
def readTwoDigits : List Char → Option (Nat × List Char)
  | a :: b :: rest =>
      if a.isDigit && b.isDigit then some (digitValue a * 10 + digitValue b, rest) else none
  | _ => none

/-- Hours and minutes after a sign, in seconds. -/
def readHoursAndMinutes (chars : List Char) : Option (Int × List Char) := do
  let (hours, rest) ← readTwoDigits chars
  let rest := rest.dropWhile fun c => c == ':' || isBlank c
  let (minutes, rest) ← readTwoDigits rest
  if minutes < 60 then return (((hours * 3600 + minutes * 60 : Nat) : Int), rest) else none

/-- The offset from universal time, in seconds. -/
def readOffset (chars : List Char) : Option (Int × List Char) :=
  match dropBlanks chars with
  | 'Z' :: rest | 'z' :: rest => some (0, rest)
  | '+' :: rest => readHoursAndMinutes rest
  | '-' :: rest | '−' :: rest =>
      (readHoursAndMinutes rest).map fun (offset, rest) => (-offset, rest)
  | a :: b :: c :: rest =>
      if [a, b, c].map Char.toUpper = ['U', 'T', 'C'] then some (0, rest) else none
  | _ => none

/-- The moment that a text stands for. -/
def Instant.ofText? (text : String) : Option Instant := do
  let (year, rest) ← readYear text.toList
  let rest ← readMark '-' rest
  let (month, rest) ← readPart rest
  let rest ← readMark '-' rest
  let (day, rest) ← readPart rest
  let rest ←
    match rest with
    | c :: rest => if c == 't' || c == 'T' || c == ' ' then some rest else none
    | [] => none
  let (hour, rest) ← readPart rest
  let rest ← readMark ':' rest
  let (minute, rest) ← readPart rest
  let rest ← readMark ':' rest
  let (second, rest) ← readPart rest
  let (nanoseconds, rest) ← readFraction rest
  let (offset, rest) ← readOffset rest
  let date : Date := { year, month, day }
  if !(dropBlanks rest).isEmpty || !date.isValid || year < firstYear || lastYear < year ||
      hour > 23 || minute > 59 || second > 60 || offset.natAbs ≥ 86400 then none
  else
    let secondOfDay := hour * 3600 + minute * 60 + min second 59
    let moment : Instant :=
      { seconds := date.toDays * 86400 + secondOfDay - offset
        nanoseconds := nanoseconds + (if second = 60 then 1000000000 else 0) }
    if moment.inCalendar then some moment else none

end SourceFacts.Time

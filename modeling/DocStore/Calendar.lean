import DocStore.Text.Parts

/-!
# Dates and times of day

Points in time as dates of the calendar, and the text in which a point in time is
shown. The calendar runs backwards and forwards without end; the text is a date for
the years up to 999999 in either direction, and a number of milliseconds beyond them.
-/

namespace DocStore

/-- A day of the calendar. -/
structure CivilDate where
  year : Int
  month : Nat
  day : Nat
deriving DecidableEq, Repr

namespace CivilDate

/-- The date a number of days after the first of January 1970. Years are counted
from March, so that the day that may be missing comes last, in cycles of four
hundred years. -/
def ofDays (days : Int) : CivilDate :=
  let shifted := days + 719468
  let cycle := Int.fdiv shifted 146097
  let dayOfCycle := (Int.fmod shifted 146097).toNat
  let yearOfCycle :=
    (dayOfCycle - dayOfCycle / 1460 + dayOfCycle / 36524 - dayOfCycle / 146096) / 365
  let dayOfYear := dayOfCycle - (365 * yearOfCycle + yearOfCycle / 4 - yearOfCycle / 100)
  let monthFromMarch := (5 * dayOfYear + 2) / 153
  let day := dayOfYear - (153 * monthFromMarch + 2) / 5 + 1
  let month := if monthFromMarch < 10 then monthFromMarch + 3 else monthFromMarch - 9
  ⟨yearOfCycle + cycle * 400 + (if month ≤ 2 then 1 else 0), month, day⟩

/-- The number of days from the first of January 1970 to a date. -/
def toDays (date : CivilDate) : Int :=
  let year := if date.month ≤ 2 then date.year - 1 else date.year
  let cycle := Int.fdiv year 400
  let yearOfCycle := (Int.fmod year 400).toNat
  let monthFromMarch := if 2 < date.month then date.month - 3 else date.month + 9
  let dayOfYear := (153 * monthFromMarch + 2) / 5 + date.day - 1
  let dayOfCycle := yearOfCycle * 365 + yearOfCycle / 4 - yearOfCycle / 100 + dayOfYear
  cycle * 146097 + dayOfCycle - 719468

/-- Does the month of February have a twenty-ninth day? -/
def isLeapYear (year : Int) : Bool :=
  year % 4 = 0 && (year % 100 ≠ 0 || year % 400 = 0)

/-- The number of days of a month. -/
def daysInMonth (year : Int) (month : Nat) : Nat :=
  if month = 2 then (if isLeapYear year then 29 else 28)
  else if month = 4 ∨ month = 6 ∨ month = 9 ∨ month = 11 then 30
  else 31

end CivilDate

namespace Calendar

/-- The number of milliseconds of a day. -/
def dayLength : Int := 86400000

/-- The last year that is shown, in either direction. -/
def lastYear : Int := 999999

/-- Digits with zeros before them up to a width. -/
def padded (width : Nat) (n : Nat) : List Char :=
  let digits := Nat.toDigits 10 n
  List.replicate (width - digits.length) '0' ++ digits

/-- A year: four digits at least, with a sign if it is before the year zero or has
more than four. -/
def yearText (year : Int) : List Char :=
  if 0 ≤ year ∧ year < 10000 then padded 4 year.natAbs
  else (if year < 0 then '-' else '+') :: padded 4 year.natAbs

/-- The digits after the point of a second, in units of `10 ^ -width`: at least
one, and no zero at the end of more. -/
def fractionText (width n : Nat) : List Char :=
  let digits := ((padded width n).reverse.dropWhile (· = '0')).reverse
  if digits.isEmpty then ['0'] else digits

/-- A date, a time of day and the fraction of its second. -/
def momentText (date : CivilDate) (hour minute second : Nat) (fraction : List Char) : String :=
  String.ofList (yearText date.year ++ '-' :: padded 2 date.month ++ '-' :: padded 2 date.day ++
    ' ' :: Nat.toDigits 10 hour ++ ':' :: padded 2 minute ++ ':' :: padded 2 second ++
      '.' :: fraction) ++ " +00:00:00"

/-- The text of a point in time, given in milliseconds since 1970. -/
def text (millis : Int) : String :=
  let date := CivilDate.ofDays (Int.fdiv millis dayLength)
  let rest := (Int.fmod millis dayLength).toNat
  if -lastYear ≤ date.year ∧ date.year ≤ lastYear then
    momentText date (rest / 3600000) (rest / 60000 % 60) (rest / 1000 % 60)
      (fractionText 3 (rest % 1000))
  else toString millis

/-- A point in time as it is exchanged: date and time of day with a letter between them,
in universal time, with a fraction of the second only where there is one. -/
def stamp (millis : Int) : String :=
  let date := CivilDate.ofDays (Int.fdiv millis dayLength)
  let rest := (Int.fmod millis dayLength).toNat
  String.ofList (yearText date.year ++ '-' :: padded 2 date.month ++ '-' :: padded 2 date.day ++
    'T' :: padded 2 (rest / 3600000) ++ ':' :: padded 2 (rest / 60000 % 60) ++
      ':' :: padded 2 (rest / 1000 % 60) ++
        (if rest % 1000 = 0 then [] else '.' :: fractionText 3 (rest % 1000)) ++ ['Z'])

/-- The first moment of the year ten thousand. -/
def stampLimit : Int := 253402300800000

end Calendar

end DocStore

/-
# The calendar

Dates of the Gregorian calendar, extended over all years, and their text.

* `yearMonthDay` is the day that lies so many days after the first of January 1970, and
  `Date.monthStart` says how many days after it a month starts;
* `Date` is a day of the years 1 to 9999, and `Date.isValid` tells those that the calendar has.
-/
import MissingSamples.Value

namespace MissingSamples

/-- A number with zeros in front up to the width. -/
def padded (width n : Nat) : String :=
  let digits := Nat.toDigits 10 n
  String.ofList (List.replicate (width - digits.length) '0' ++ digits)

/-- The year has a twenty-ninth of February. -/
def isLeapYear (year : Nat) : Bool := year % 4 == 0 && (year % 100 != 0 || year % 400 == 0)

/-- How many days a month has. -/
def daysInMonth (year month : Nat) : Nat :=
  if month = 2 then if isLeapYear year then 29 else 28
  else if month = 4 ∨ month = 6 ∨ month = 9 ∨ month = 11 then 30
  else 31

/-- Year, month and day so many days after the first of January 1970. The count runs in eras of
four hundred years that start on the first of March. -/
def yearMonthDay (days : Int) : Int × Nat × Nat :=
  let shifted := days + 719468
  let era := shifted / 146097
  let dayOfEra := (shifted % 146097).toNat
  let yearOfEra := (dayOfEra - dayOfEra / 1460 + dayOfEra / 36524 - dayOfEra / 146096) / 365
  let dayOfYear := dayOfEra - (365 * yearOfEra + yearOfEra / 4 - yearOfEra / 100)
  let fromMarch := (5 * dayOfYear + 2) / 153
  let month := if fromMarch < 10 then fromMarch + 3 else fromMarch - 9
  (yearOfEra + era * 400 + (if month ≤ 2 then 1 else 0), month,
    dayOfYear - (153 * fromMarch + 2) / 5 + 1)

/-- A year as text: four places at least, of which the sign is one. -/
def yearText (year : Int) : String :=
  if year < 0 then "-" ++ padded 3 year.natAbs else padded 4 year.toNat

/-- A day as text. -/
def dayText (year : Int) (month day : Nat) : String :=
  yearText year ++ "-" ++ padded 2 month ++ "-" ++ padded 2 day

namespace Date

/-- The calendar has the date. -/
def isValid (d : Date) : Bool :=
  1 ≤ d.year && d.year ≤ 9999 && 1 ≤ d.month && d.month ≤ 12 && 1 ≤ d.day
    && d.day ≤ daysInMonth d.year d.month

/-- The date so many days after the first of January 1970. -/
def ofDays (days : Int) : Date :=
  let (year, month, day) := yearMonthDay days
  ⟨year.toNat, month, day⟩

/-- How many days after the first of January 1970 a month starts. The count runs in the same eras. -/
def monthStart (year : Int) (month : Nat) : Int :=
  let shifted := if month ≤ 2 then year - 1 else year
  let yearOfEra := shifted % 400
  let fromMarch : Int := if month ≤ 2 then month + 9 else month - 3
  shifted / 400 * 146097 + yearOfEra * 365 + yearOfEra / 4 - yearOfEra / 100
    + (153 * fromMarch + 2) / 5 - 719468

/-- The date as text. -/
def text (d : Date) : String := dayText d.year d.month d.day

end Date

/-- Hours, minutes and seconds, and millionths of a second if there are any. -/
def clockText (hour minute second micro : Nat) : String :=
  padded 2 hour ++ ":" ++ padded 2 minute ++ ":" ++ padded 2 second
    ++ if micro = 0 then "" else "." ++ padded 6 micro

namespace Moment

/-- The distance of a clock from universal time as text. -/
def offsetText (seconds : Int) : String :=
  let n := seconds.natAbs
  (if seconds < 0 then "-" else "+") ++ padded 2 (n / 3600) ++ ":" ++ padded 2 (n / 60 % 60)
    ++ if n % 60 = 0 then "" else ":" ++ padded 2 (n % 60)

/-- The time of a day as text, the day and the time parted by `between`. -/
def text (between : String) (m : Moment) : String :=
  m.date.text ++ between ++ clockText m.hour m.minute m.second m.micro
    ++ match m.offset with
      | none => ""
      | some seconds => offsetText seconds

/-- The moment so many millionths of a second after the start of 1970. -/
def ofMicros (micros : Int) : Moment :=
  let seconds := micros / 1000000
  let ofDay := (seconds % 86400).toNat
  ⟨.ofDays (seconds / 86400), ofDay / 3600, ofDay / 60 % 60, ofDay % 60, (micros % 1000000).toNat,
    none⟩

end Moment

end MissingSamples

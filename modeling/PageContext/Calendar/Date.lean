/-!
# Dates of the Gregorian calendar

A date is a year, a month and a day.  Dates are numbered by days: day 0 is the first of January
1970.  The number of a date is the number of days before its year, before its month and before
itself; the date of a number is found by cutting off cycles of four hundred, a hundred, four and
one years.  Years before the year 1 are 0, -1 and so on, with the same rules.
-/

namespace PageContext

/-- A date; months and days count from one. -/
structure Date where
  year : Int
  month : Nat
  day : Nat
deriving DecidableEq, Repr, Inhabited

namespace Date

/-- A year is a leap year when four divides it, unless a hundred does and four hundred does not. -/
def isLeapYear (year : Int) : Bool :=
  year % 4 == 0 && (year % 100 != 0 || year % 400 == 0)

def monthLengths (leap : Bool) : List Nat :=
  [31, if leap then 29 else 28, 31, 30, 31, 30, 31, 31, 30, 31, 30, 31]

/-- The length of a month of a year; zero for a month that does not exist. -/
def monthLength (year : Int) (month : Nat) : Nat :=
  if month = 0 then 0 else ((monthLengths (isLeapYear year))[month - 1]?).getD 0

/-- The first and the last year of the representable range. -/
def leastYear : Int := -262143

/-- The last year of the representable range. -/
def greatestYear : Int := 262142

/-- Whether a date exists in the calendar and lies in the representable range. -/
def isValid (date : Date) : Bool :=
  leastYear ≤ date.year && date.year ≤ greatestYear && 1 ≤ date.day &&
    date.day ≤ monthLength date.year date.month

/-- The date of a year, month and day if it exists. -/
def ofParts? (year : Int) (month day : Nat) : Option Date :=
  let date : Date := ⟨year, month, day⟩
  if date.isValid then some date else none

/-- The number of days from the first of January of the year 1 to that of another year. -/
def daysBeforeYear (year : Int) : Int :=
  365 * (year - 1) + (year - 1) / 4 - (year - 1) / 100 + (year - 1) / 400

/-- The number of days of a year before one of its months. -/
def daysBeforeMonth (year : Int) (month : Nat) : Nat :=
  ((monthLengths (isLeapYear year)).take (month - 1)).foldl (· + ·) 0

/-- The number of days from the first of January of the year 1 to that of 1970. -/
def epochDays : Int := 719162

/-- The number of a date, counted from the first of January 1970. -/
def toDays (date : Date) : Int :=
  daysBeforeYear date.year - epochDays + daysBeforeMonth date.year date.month + (date.day - 1)

/-- The month and day of the day with an index into the months with the given lengths. -/
def monthAndDay : (lengths : List Nat) → (month index : Nat) → Nat × Nat
  | [], month, index => (month, index + 1)
  | length :: lengths, month, index =>
      if index < length then (month, index + 1)
      else monthAndDay lengths (month + 1) (index - length)

def ofDays (number : Int) : Date :=
  let days := number + epochDays
  let cycles := days / 146097
  let days := days % 146097
  let centuries := min 3 (days / 36524)
  let days := days - 36524 * centuries
  let fours := days / 1461
  let days := days % 1461
  let ones := min 3 (days / 365)
  let days := days - 365 * ones
  let year := 400 * cycles + 100 * centuries + 4 * fours + ones + 1
  let (month, day) := monthAndDay (monthLengths (isLeapYear year)) 1 days.toNat
  ⟨year, month, day⟩

/-- The number of the month in the sequence of all months. -/
def monthIndex (date : Date) : Int :=
  12 * date.year + (date.month - 1)

/-- The date a number of months away, with the day limited to the length of the month; none when it
leaves the representable range.  No months at all leave even a date beyond the range as it is. -/
def addMonths? (date : Date) (months : Int) : Option Date :=
  if months = 0 then some date
  else
    let index := date.monthIndex + months
    let year := index / 12
    let month := (index % 12).toNat + 1
    ofParts? year month (min date.day (monthLength year month))

def monthNames : List String :=
  ["January", "February", "March", "April", "May", "June", "July", "August", "September",
    "October", "November", "December"]

/-- The name of a month; numbers beyond the months stand for the first and the last one. -/
def monthName (month : Nat) : String :=
  (monthNames[max 1 (min 12 month) - 1]?).getD ""

/-- The first three letters of the name of a month. -/
def shortMonthName (month : Nat) : String :=
  String.ofList ((monthName month).toList.take 3)

def weekdayName (date : Date) : String :=
  (["Thursday", "Friday", "Saturday", "Sunday", "Monday", "Tuesday", "Wednesday"][
    (date.toDays % 7).toNat]?).getD ""

end Date

end PageContext

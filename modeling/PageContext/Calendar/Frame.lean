import PageContext.Calendar.Reader
import PageContext.Json.Basic
import PageContext.Stop

/-!
# Time frames

A time frame is the offset of local time from universal time together with the instant that counts
as now.  In a time frame an instant has a local date, a local month and a distance from now in
calendar days.  Dates, months and distances can be taken after moving every instant, now included,
by a number of hours; nothing comes out when that leaves the representable range.

Within a day of either end of this range the offset can lead to a local date outside of it.  The year,
the month and the day of such a date can still be shown, but a distance in days crashes there.
-/

namespace PageContext

/-- A month of a year. -/
structure YearMonth where
  year : Int
  month : Nat
deriving DecidableEq, Repr, Inhabited

namespace YearMonth

def ofDate (date : Date) : YearMonth :=
  ⟨date.year, date.month⟩

/-- The number of the month in the sequence of all months. -/
def index (yearMonth : YearMonth) : Int :=
  12 * yearMonth.year + (yearMonth.month - 1)

def ofIndex (index : Int) : YearMonth :=
  ⟨index / 12, (index % 12).toNat + 1⟩

/-- The name of the month without its year. -/
def name (yearMonth : YearMonth) : String :=
  Date.monthName yearMonth.month

/-- The year, a hyphen and the month in two digits. -/
def reference (yearMonth : YearMonth) : String :=
  toString yearMonth.year ++ "-" ++ Text.padded 2 yearMonth.month

end YearMonth

/-- Why a distance in days cannot be told. -/
inductive DateError where
  /-- The hours lead an instant out of the representable range. -/
  | outOfRange
deriving DecidableEq, Repr, Inhabited

/-- The offset of local time, in seconds east of universal time, and the instant taken as now. -/
structure TimeFrame where
  offset : Int
  now : Instant
deriving DecidableEq, Repr, Inhabited

/-- The instant some hours later or earlier, if it is representable. -/
def Instant.addHours? (instant : Instant) (hours : Int) : Option Instant :=
  instant.addSeconds? (3600 * hours)

namespace TimeFrame

/-- The offset of a number of seconds, which must be less than a day. -/
def offsetOfSeconds? (seconds : Int) : Option Int :=
  if -secondsPerDay < seconds && seconds < secondsPerDay then some seconds else none

/-- The offset of a number of minutes, whose seconds must fit into 32 bits. -/
def offsetOfMinutes? (minutes : Int) : Option Int :=
  if Text.fitsSigned 32 (60 * minutes) then offsetOfSeconds? (60 * minutes) else none

/-- What a local clock shows at an instant. -/
def localTime (frame : TimeFrame) (instant : Instant) : LocalTime :=
  instant.toLocal frame.offset

/-- The local date of an instant, also where it is none of the dates that can be counted. -/
def localDate (frame : TimeFrame) (instant : Instant) : Date :=
  (frame.localTime instant).date

/-- Whether the local date of an instant can be counted: dates end where instants do. -/
def hasLocalDate (frame : TimeFrame) (instant : Instant) : Bool :=
  Instant.isRepresentable ⟨instant.seconds + frame.offset, instant.nanoseconds⟩

def localMonth (frame : TimeFrame) (instant : Instant) : YearMonth :=
  .ofDate (frame.localDate instant)

/-- The instant that a value stands for: milliseconds as a number, or any written moment. -/
def instant? (frame : TimeFrame) : Json → Option Instant
  | .number value => Instant.ofMilliseconds? value.toSigned
  | .string text => DateReader.readMoment? frame.offset (Text.trim text)
  | _ => none

/-- The local month of an instant moved by some hours. -/
def monthAfter? (frame : TimeFrame) (instant : Instant) (hours : Int) : Option YearMonth :=
  (instant.addHours? hours).map frame.localMonth

/-- The current month, now being moved by some hours. -/
def currentMonthAfter? (frame : TimeFrame) (hours : Int) : Option YearMonth :=
  frame.monthAfter? frame.now hours

/-- The local date of an instant moved by some hours, for counting days. -/
def countedDay (frame : TimeFrame) (instant : Instant) (hours : Int) :
    Except (Stop DateError) Date :=
  match instant.addHours? hours with
  | none => .error (.failure .outOfRange)
  | some moved => if frame.hasLocalDate moved then .ok (frame.localDate moved) else .error .crash

/-- The number of calendar days from an instant to now, both moved by some hours.  Now comes first
where neither has a day. -/
def daysAgo (frame : TimeFrame) (instant : Instant) (hours : Int) : Except (Stop DateError) Int := do
  let today ← frame.countedDay frame.now hours
  let day ← frame.countedDay instant hours
  return today.toDays - day.toDays

/-- The number of calendar days from an instant to now, if there is one. -/
def daysAgo? (frame : TimeFrame) (instant : Instant) (hours : Int) : Option Int :=
  (frame.daysAgo instant hours).toOption

end TimeFrame

end PageContext

import PageContext.Calendar.Frame

/-!
# Labels of dates

An instant is labelled by its distance from now, by its distance in calendar days, or by its date.
A display date is a distance in days for the most recent days and a date for all others.
-/

namespace PageContext

/-- When a date shows its year. -/
inductive YearMode where
  /-- Only when it is not the current year. -/
  | whenDifferent
  | always
  | never
deriving DecidableEq, Repr, Inhabited

/-- How a date is written. -/
structure DateStyle where
  year : YearMode := .whenDifferent
  shortMonth : Bool := false
  dayOfWeek : Bool := false
deriving DecidableEq, Repr, Inhabited

/-- How a display date is written. -/
structure DisplayStyle where
  /-- How many days, today included, have a label relative to today. -/
  relativeDays : Int := 2
  hoursOffset : Int := 0
  year : YearMode := .whenDifferent
  shortMonth : Bool := false
deriving DecidableEq, Repr, Inhabited

/-- The parts in which a calendar lists an instant. -/
structure CalendarParts where
  year : String
  month : String
  /-- Two digits. -/
  day : String
  /-- The time on a clock of twelve hours. -/
  time : String
deriving DecidableEq, Repr, Inhabited

/-- A distance in days from today; positive numbers lie in the past. -/
def relativeDayLabel (days : Int) : String :=
  if days = 0 then "Today"
  else if days = 1 then "Yesterday"
  else if days = -1 then "Tomorrow"
  else if 0 < days then toString days ++ " days ago"
  else "in " ++ toString (-days) ++ " days"

/-- The name of a month, in full or short. -/
def monthLabel (short : Bool) (month : Nat) : String :=
  if short then Date.shortMonthName month else Date.monthName month

/-- The scale on which a span of time is put into words. -/
inductive Span where
  | fewSeconds
  | oneMinute
  | minutes (count : Nat)
  | oneHour
  | hours (count : Nat)
  | oneDay
  | days (count : Nat)
  | oneMonth
  | months (count : Nat)
  | oneYear
  | years (count : Nat)
deriving DecidableEq, Repr

namespace Span

/-- The nearest number of units, a half counting up. -/
def nearest (amount unit : Nat) : Nat :=
  (amount + unit / 2) / unit

/-- A number of seconds on the scale.  A month has 30.44 days and a year 365.25. -/
def ofSeconds (seconds : Nat) : Span :=
  let minutes := nearest seconds 60
  let hours := nearest seconds 3600
  let days := nearest seconds 86400
  if seconds < 45 then .fewSeconds
  else if seconds < 90 then .oneMinute
  else if minutes < 45 then .minutes minutes
  else if seconds < 5400 then .oneHour
  else if hours < 22 then .hours hours
  else if hours < 36 then .oneDay
  else if days < 26 then .days days
  else if days < 45 then .oneMonth
  else if days < 320 then .months (max 2 (nearest (100 * days) 3044))
  else if days < 548 then .oneYear
  else .years (max 2 (nearest (4 * days) 1461))

def text : Span → String
  | .fewSeconds => "a few seconds"
  | .oneMinute => "a minute"
  | .minutes count => toString count ++ " minutes"
  | .oneHour => "an hour"
  | .hours count => toString count ++ " hours"
  | .oneDay => "a day"
  | .days count => toString count ++ " days"
  | .oneMonth => "a month"
  | .months count => toString count ++ " months"
  | .oneYear => "a year"
  | .years count => toString count ++ " years"

end Span

namespace TimeFrame

/-- The parts in which a calendar lists an instant. -/
def calendarParts (frame : TimeFrame) (instant : Instant) : CalendarParts :=
  let time := frame.localTime instant
  { year := toString time.date.year
    month := Date.monthName time.date.month
    day := Text.padded 2 time.date.day
    time := time.clockText }

/-- The distance of an instant from now in words. -/
def timeAgo (frame : TimeFrame) (instant : Instant) : String :=
  let elapsed := frame.now.secondsSince instant
  let phrase := (Span.ofSeconds elapsed.natAbs).text
  if 0 ≤ elapsed then phrase ++ " ago" else "in " ++ phrase

/-- The distance of an instant from now in calendar days. -/
def timeAgoInDays (frame : TimeFrame) (instant : Instant) (hours : Int) :
    Except (Stop DateError) String :=
  (frame.daysAgo instant hours).map relativeDayLabel

/-- Whether the date of an instant shows its year. -/
def showsYear (frame : TimeFrame) (mode : YearMode) (instant : Instant) : Bool :=
  match mode with
  | .always => true
  | .never => false
  | .whenDifferent => (frame.localDate instant).year != (frame.localDate frame.now).year

/-- The local date of an instant in words. -/
def dateText (frame : TimeFrame) (instant : Instant) (style : DateStyle) : String :=
  let date := frame.localDate instant
  (if style.dayOfWeek then date.weekdayName ++ ", " else "") ++
    monthLabel style.shortMonth date.month ++ " " ++ toString date.day ++
    (if frame.showsYear style.year instant then ", " ++ toString date.year else "")

/-- A label relative to today for the most recent days, a date for all others. -/
def displayDate (frame : TimeFrame) (instant : Instant) (style : DisplayStyle) :
    Except (Stop DateError) String := do
  let days ← frame.daysAgo instant style.hoursOffset
  if 0 ≤ days && days < style.relativeDays then return relativeDayLabel days
  else
    match instant.addHours? style.hoursOffset with
    | none => throw (.failure .outOfRange)
    | some moved =>
        return frame.dateText moved
          { year := style.year, shortMonth := style.shortMonth, dayOfWeek := false }

def displayDate? (frame : TimeFrame) (instant : Instant) (style : DisplayStyle) : Option String :=
  (frame.displayDate instant style).toOption

end TimeFrame

end PageContext

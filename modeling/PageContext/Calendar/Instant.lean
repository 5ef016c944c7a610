import PageContext.Calendar.Date
import PageContext.Text.Integer

/-!
# Instants and local times

An instant is a number of seconds since the beginning of 1970 in universal time and a number of
nanoseconds.  A leap second is written as the second before it with a billion or more nanoseconds.
Instants are representable when their date is.  A local time is what a clock with a fixed offset
from universal time shows at an instant.
-/

namespace PageContext

/-- A point in time. -/
structure Instant where
  /-- Seconds since the beginning of 1970. -/
  seconds : Int
  /-- A billion and more stand for a leap second. -/
  nanoseconds : Nat
deriving DecidableEq, Repr, Inhabited

/-- A date and a time of day. -/
structure LocalTime where
  date : Date
  secondOfDay : Nat
  nanoseconds : Nat
deriving DecidableEq, Repr, Inhabited

def secondsPerDay : Int := 86400

def nanosecondsPerSecond : Nat := 1000000000

namespace Instant

def leastSeconds : Int := -8334601228800

def greatestSeconds : Int := 8210266876799

def isRepresentable (instant : Instant) : Bool :=
  leastSeconds ≤ instant.seconds && instant.seconds ≤ greatestSeconds

def checked? (instant : Instant) : Option Instant :=
  if instant.isRepresentable then some instant else none

/-- The instant a number of milliseconds after the beginning of 1970. -/
def ofMilliseconds? (milliseconds : Int) : Option Instant :=
  checked? ⟨milliseconds / 1000, (milliseconds % 1000).toNat * 1000000⟩

/-- The instant some seconds later or earlier.  A leap second that is left counts as the second it
is written with on the way forward and as the next one on the way back. -/
def addSeconds? (instant : Instant) (amount : Int) : Option Instant :=
  if nanosecondsPerSecond ≤ instant.nanoseconds && amount ≠ 0 then
    checked? ⟨instant.seconds + amount + (if amount < 0 then 1 else 0),
      instant.nanoseconds - nanosecondsPerSecond⟩
  else checked? ⟨instant.seconds + amount, instant.nanoseconds⟩

/-- The whole seconds from one instant to another, the fraction dropped.  A leap second on the
earlier side of two times of day counts as one second more. -/
def secondsSince (later earlier : Instant) : Int :=
  let laterTime := later.seconds % secondsPerDay
  let earlierTime := earlier.seconds % secondsPerDay
  let leap : Int :=
    if earlierTime < laterTime && nanosecondsPerSecond ≤ earlier.nanoseconds then 1
    else if laterTime < earlierTime && nanosecondsPerSecond ≤ later.nanoseconds then -1
    else 0
  let nanoseconds := (later.nanoseconds : Int) - earlier.nanoseconds
  let seconds := later.seconds - earlier.seconds + leap + nanoseconds / nanosecondsPerSecond
  if seconds < 0 && 0 < nanoseconds % nanosecondsPerSecond then seconds + 1 else seconds

/-- The local time at an offset given in seconds east of universal time. -/
def toLocal (instant : Instant) (offset : Int) : LocalTime :=
  let seconds := instant.seconds + offset
  { date := Date.ofDays (seconds / secondsPerDay)
    secondOfDay := (seconds % secondsPerDay).toNat
    nanoseconds := instant.nanoseconds }

end Instant

namespace LocalTime

def midnight (date : Date) : LocalTime :=
  ⟨date, 0, 0⟩

/-- The instant at which a clock with the given offset shows a local time. -/
def toInstant? (time : LocalTime) (offset : Int) : Option Instant :=
  Instant.checked?
    ⟨time.date.toDays * secondsPerDay + time.secondOfDay - offset, time.nanoseconds⟩

def hour (time : LocalTime) : Nat :=
  time.secondOfDay / 3600

def minute (time : LocalTime) : Nat :=
  time.secondOfDay / 60 % 60

/-- The time of day on a clock of twelve hours, such as `5:00 PM`. -/
def clockText (time : LocalTime) : String :=
  let hour := if time.hour % 12 = 0 then 12 else time.hour % 12
  toString hour ++ ":" ++ Text.padded 2 time.minute ++
    (if time.hour < 12 then " AM" else " PM")

end LocalTime

/-- An instant in universal time, with as many digits of the fraction, in groups of three, as it
needs, and a given text for the zone. -/
def Instant.textInZone (zone : String) (instant : Instant) : String :=
  let time := instant.toLocal 0
  let date := time.date
  let leap := nanosecondsPerSecond ≤ time.nanoseconds
  let second := time.secondOfDay % 60 + (if leap then 1 else 0)
  let fraction := time.nanoseconds % nanosecondsPerSecond
  let year :=
    if 0 ≤ date.year && date.year ≤ 9999 then Text.padded 4 date.year.natAbs
    else (if date.year < 0 then "-" else "+") ++ Text.padded 4 date.year.natAbs
  let fractionText :=
    if fraction = 0 then ""
    else if fraction % 1000000 = 0 then "." ++ Text.padded 3 (fraction / 1000000)
    else if fraction % 1000 = 0 then "." ++ Text.padded 6 (fraction / 1000)
    else "." ++ Text.padded 9 fraction
  year ++ "-" ++ Text.padded 2 date.month ++ "-" ++ Text.padded 2 date.day ++ "T" ++
    Text.padded 2 time.hour ++ ":" ++ Text.padded 2 time.minute ++ ":" ++ Text.padded 2 second ++
    fractionText ++ zone

/-- An instant in universal time, marked by a letter. -/
def Instant.text (instant : Instant) : String :=
  instant.textInZone "Z"

end PageContext
